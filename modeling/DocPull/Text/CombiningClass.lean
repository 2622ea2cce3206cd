import DocPull.Text.Lookup
import DocPull.Text.Unit

/-!
# Canonical combining classes

Class zero is a starter. Marks of different non-zero classes do not interact, so their order
after a starter is fixed by the class.
-/
namespace DocPull.CombiningClass

/-- The non-zero classes of Unicode 17: the first and the last code point of a range, and the
class. -/
def classEntries : List Nat :=
  [0x300_00314_000E6, 0x315_00315_000E8, 0x316_00319_000DC, 0x31A_0031A_000E8, 0x31B_0031B_000D8,
    0x31C_00320_000DC, 0x321_00322_000CA, 0x323_00326_000DC, 0x327_00328_000CA, 0x329_00333_000DC,
    0x334_00338_00001, 0x339_0033C_000DC, 0x33D_00344_000E6, 0x345_00345_000F0, 0x346_00346_000E6,
    0x347_00349_000DC, 0x34A_0034C_000E6, 0x34D_0034E_000DC, 0x350_00352_000E6, 0x353_00356_000DC,
    0x357_00357_000E6, 0x358_00358_000E8, 0x359_0035A_000DC, 0x35B_0035B_000E6, 0x35C_0035C_000E9,
    0x35D_0035E_000EA, 0x35F_0035F_000E9, 0x360_00361_000EA, 0x362_00362_000E9, 0x363_0036F_000E6,
    0x483_00487_000E6, 0x591_00591_000DC, 0x592_00595_000E6, 0x596_00596_000DC, 0x597_00599_000E6,
    0x59A_0059A_000DE, 0x59B_0059B_000DC, 0x59C_005A1_000E6, 0x5A2_005A7_000DC, 0x5A8_005A9_000E6,
    0x5AA_005AA_000DC, 0x5AB_005AC_000E6, 0x5AD_005AD_000DE, 0x5AE_005AE_000E4, 0x5AF_005AF_000E6,
    0x5B0_005B0_0000A, 0x5B1_005B1_0000B, 0x5B2_005B2_0000C, 0x5B3_005B3_0000D, 0x5B4_005B4_0000E,
    0x5B5_005B5_0000F, 0x5B6_005B6_00010, 0x5B7_005B7_00011, 0x5B8_005B8_00012, 0x5B9_005BA_00013,
    0x5BB_005BB_00014, 0x5BC_005BC_00015, 0x5BD_005BD_00016, 0x5BF_005BF_00017, 0x5C1_005C1_00018,
    0x5C2_005C2_00019, 0x5C4_005C4_000E6, 0x5C5_005C5_000DC, 0x5C7_005C7_00012, 0x610_00617_000E6,
    0x618_00618_0001E, 0x619_00619_0001F, 0x61A_0061A_00020, 0x64B_0064B_0001B, 0x64C_0064C_0001C,
    0x64D_0064D_0001D, 0x64E_0064E_0001E, 0x64F_0064F_0001F, 0x650_00650_00020, 0x651_00651_00021,
    0x652_00652_00022, 0x653_00654_000E6, 0x655_00656_000DC, 0x657_0065B_000E6, 0x65C_0065C_000DC,
    0x65D_0065E_000E6, 0x65F_0065F_000DC, 0x670_00670_00023, 0x6D6_006DC_000E6, 0x6DF_006E2_000E6,
    0x6E3_006E3_000DC, 0x6E4_006E4_000E6, 0x6E7_006E8_000E6, 0x6EA_006EA_000DC, 0x6EB_006EC_000E6,
    0x6ED_006ED_000DC, 0x711_00711_00024, 0x730_00730_000E6, 0x731_00731_000DC, 0x732_00733_000E6,
    0x734_00734_000DC, 0x735_00736_000E6, 0x737_00739_000DC, 0x73A_0073A_000E6, 0x73B_0073C_000DC,
    0x73D_0073D_000E6, 0x73E_0073E_000DC, 0x73F_00741_000E6, 0x742_00742_000DC, 0x743_00743_000E6,
    0x744_00744_000DC, 0x745_00745_000E6, 0x746_00746_000DC, 0x747_00747_000E6, 0x748_00748_000DC,
    0x749_0074A_000E6, 0x7EB_007F1_000E6, 0x7F2_007F2_000DC, 0x7F3_007F3_000E6, 0x7FD_007FD_000DC,
    0x816_00819_000E6, 0x81B_00823_000E6, 0x825_00827_000E6, 0x829_0082D_000E6, 0x859_0085B_000DC,
    0x897_00898_000E6, 0x899_0089B_000DC, 0x89C_0089F_000E6, 0x8CA_008CE_000E6, 0x8CF_008D3_000DC,
    0x8D4_008E1_000E6, 0x8E3_008E3_000DC, 0x8E4_008E5_000E6, 0x8E6_008E6_000DC, 0x8E7_008E8_000E6,
    0x8E9_008E9_000DC, 0x8EA_008EC_000E6, 0x8ED_008EF_000DC, 0x8F0_008F0_0001B, 0x8F1_008F1_0001C,
    0x8F2_008F2_0001D, 0x8F3_008F5_000E6, 0x8F6_008F6_000DC, 0x8F7_008F8_000E6, 0x8F9_008FA_000DC,
    0x8FB_008FF_000E6, 0x93C_0093C_00007, 0x94D_0094D_00009, 0x951_00951_000E6, 0x952_00952_000DC,
    0x953_00954_000E6, 0x9BC_009BC_00007, 0x9CD_009CD_00009, 0x9FE_009FE_000E6, 0xA3C_00A3C_00007,
    0xA4D_00A4D_00009, 0xABC_00ABC_00007, 0xACD_00ACD_00009, 0xB3C_00B3C_00007, 0xB4D_00B4D_00009,
    0xBCD_00BCD_00009, 0xC3C_00C3C_00007, 0xC4D_00C4D_00009, 0xC55_00C55_00054, 0xC56_00C56_0005B,
    0xCBC_00CBC_00007, 0xCCD_00CCD_00009, 0xD3B_00D3C_00009, 0xD4D_00D4D_00009, 0xDCA_00DCA_00009,
    0xE38_00E39_00067, 0xE3A_00E3A_00009, 0xE48_00E4B_0006B, 0xEB8_00EB9_00076, 0xEBA_00EBA_00009,
    0xEC8_00ECB_0007A, 0xF18_00F19_000DC, 0xF35_00F35_000DC, 0xF37_00F37_000DC, 0xF39_00F39_000D8,
    0xF71_00F71_00081, 0xF72_00F72_00082, 0xF74_00F74_00084, 0xF7A_00F7D_00082, 0xF80_00F80_00082,
    0xF82_00F83_000E6, 0xF84_00F84_00009, 0xF86_00F87_000E6, 0xFC6_00FC6_000DC, 0x1037_01037_00007,
    0x1039_0103A_00009, 0x108D_0108D_000DC, 0x135D_0135F_000E6, 0x1714_01715_00009,
    0x1734_01734_00009, 0x17D2_017D2_00009, 0x17DD_017DD_000E6, 0x18A9_018A9_000E4,
    0x1939_01939_000DE, 0x193A_0193A_000E6, 0x193B_0193B_000DC, 0x1A17_01A17_000E6,
    0x1A18_01A18_000DC, 0x1A60_01A60_00009, 0x1A75_01A7C_000E6, 0x1A7F_01A7F_000DC,
    0x1AB0_01AB4_000E6, 0x1AB5_01ABA_000DC, 0x1ABB_01ABC_000E6, 0x1ABD_01ABD_000DC,
    0x1ABF_01AC0_000DC, 0x1AC1_01AC2_000E6, 0x1AC3_01AC4_000DC, 0x1AC5_01AC9_000E6,
    0x1ACA_01ACA_000DC, 0x1ACB_01ADC_000E6, 0x1ADD_01ADD_000DC, 0x1AE0_01AE5_000E6,
    0x1AE6_01AE6_000DC, 0x1AE7_01AEA_000E6, 0x1AEB_01AEB_000EA, 0x1B34_01B34_00007,
    0x1B44_01B44_00009, 0x1B6B_01B6B_000E6, 0x1B6C_01B6C_000DC, 0x1B6D_01B73_000E6,
    0x1BAA_01BAB_00009, 0x1BE6_01BE6_00007, 0x1BF2_01BF3_00009, 0x1C37_01C37_00007,
    0x1CD0_01CD2_000E6, 0x1CD4_01CD4_00001, 0x1CD5_01CD9_000DC, 0x1CDA_01CDB_000E6,
    0x1CDC_01CDF_000DC, 0x1CE0_01CE0_000E6, 0x1CE2_01CE8_00001, 0x1CED_01CED_000DC,
    0x1CF4_01CF4_000E6, 0x1CF8_01CF9_000E6, 0x1DC0_01DC1_000E6, 0x1DC2_01DC2_000DC,
    0x1DC3_01DC9_000E6, 0x1DCA_01DCA_000DC, 0x1DCB_01DCC_000E6, 0x1DCD_01DCD_000EA,
    0x1DCE_01DCE_000D6, 0x1DCF_01DCF_000DC, 0x1DD0_01DD0_000CA, 0x1DD1_01DF5_000E6,
    0x1DF6_01DF6_000E8, 0x1DF7_01DF8_000E4, 0x1DF9_01DF9_000DC, 0x1DFA_01DFA_000DA,
    0x1DFB_01DFB_000E6, 0x1DFC_01DFC_000E9, 0x1DFD_01DFD_000DC, 0x1DFE_01DFE_000E6,
    0x1DFF_01DFF_000DC, 0x20D0_020D1_000E6, 0x20D2_020D3_00001, 0x20D4_020D7_000E6,
    0x20D8_020DA_00001, 0x20DB_020DC_000E6, 0x20E1_020E1_000E6, 0x20E5_020E6_00001,
    0x20E7_020E7_000E6, 0x20E8_020E8_000DC, 0x20E9_020E9_000E6, 0x20EA_020EB_00001,
    0x20EC_020EF_000DC, 0x20F0_020F0_000E6, 0x2CEF_02CF1_000E6, 0x2D7F_02D7F_00009,
    0x2DE0_02DFF_000E6, 0x302A_0302A_000DA, 0x302B_0302B_000E4, 0x302C_0302C_000E8,
    0x302D_0302D_000DE, 0x302E_0302F_000E0, 0x3099_0309A_00008, 0xA66F_0A66F_000E6,
    0xA674_0A67D_000E6, 0xA69E_0A69F_000E6, 0xA6F0_0A6F1_000E6, 0xA806_0A806_00009,
    0xA82C_0A82C_00009, 0xA8C4_0A8C4_00009, 0xA8E0_0A8F1_000E6, 0xA92B_0A92D_000DC,
    0xA953_0A953_00009, 0xA9B3_0A9B3_00007, 0xA9C0_0A9C0_00009, 0xAAB0_0AAB0_000E6,
    0xAAB2_0AAB3_000E6, 0xAAB4_0AAB4_000DC, 0xAAB7_0AAB8_000E6, 0xAABE_0AABF_000E6,
    0xAAC1_0AAC1_000E6, 0xAAF6_0AAF6_00009, 0xABED_0ABED_00009, 0xFB1E_0FB1E_0001A,
    0xFE20_0FE26_000E6, 0xFE27_0FE2D_000DC, 0xFE2E_0FE2F_000E6, 0x101FD_101FD_000DC,
    0x102E0_102E0_000DC, 0x10376_1037A_000E6, 0x10A0D_10A0D_000DC, 0x10A0F_10A0F_000E6,
    0x10A38_10A38_000E6, 0x10A39_10A39_00001, 0x10A3A_10A3A_000DC, 0x10A3F_10A3F_00009,
    0x10AE5_10AE5_000E6, 0x10AE6_10AE6_000DC, 0x10D24_10D27_000E6, 0x10D69_10D6D_000E6,
    0x10EAB_10EAC_000E6, 0x10EFA_10EFB_000DC, 0x10EFD_10EFF_000DC, 0x10F46_10F47_000DC,
    0x10F48_10F4A_000E6, 0x10F4B_10F4B_000DC, 0x10F4C_10F4C_000E6, 0x10F4D_10F50_000DC,
    0x10F82_10F82_000E6, 0x10F83_10F83_000DC, 0x10F84_10F84_000E6, 0x10F85_10F85_000DC,
    0x11046_11046_00009, 0x11070_11070_00009, 0x1107F_1107F_00009, 0x110B9_110B9_00009,
    0x110BA_110BA_00007, 0x11100_11102_000E6, 0x11133_11134_00009, 0x11173_11173_00007,
    0x111C0_111C0_00009, 0x111CA_111CA_00007, 0x11235_11235_00009, 0x11236_11236_00007,
    0x112E9_112E9_00007, 0x112EA_112EA_00009, 0x1133B_1133C_00007, 0x1134D_1134D_00009,
    0x11366_1136C_000E6, 0x11370_11374_000E6, 0x113CE_113D0_00009, 0x11442_11442_00009,
    0x11446_11446_00007, 0x1145E_1145E_000E6, 0x114C2_114C2_00009, 0x114C3_114C3_00007,
    0x115BF_115BF_00009, 0x115C0_115C0_00007, 0x1163F_1163F_00009, 0x116B6_116B6_00009,
    0x116B7_116B7_00007, 0x1172B_1172B_00009, 0x11839_11839_00009, 0x1183A_1183A_00007,
    0x1193D_1193E_00009, 0x11943_11943_00007, 0x119E0_119E0_00009, 0x11A34_11A34_00009,
    0x11A47_11A47_00009, 0x11A99_11A99_00009, 0x11C3F_11C3F_00009, 0x11D42_11D42_00007,
    0x11D44_11D45_00009, 0x11D97_11D97_00009, 0x11F41_11F42_00009, 0x1612F_1612F_00009,
    0x16AF0_16AF4_00001, 0x16B30_16B36_000E6, 0x16FF0_16FF1_00006, 0x1BC9E_1BC9E_00001,
    0x1D165_1D166_000D8, 0x1D167_1D169_00001, 0x1D16D_1D16D_000E2, 0x1D16E_1D172_000D8,
    0x1D17B_1D182_000DC, 0x1D185_1D189_000E6, 0x1D18A_1D18B_000DC, 0x1D1AA_1D1AD_000E6,
    0x1D242_1D244_000E6, 0x1E000_1E006_000E6, 0x1E008_1E018_000E6, 0x1E01B_1E021_000E6,
    0x1E023_1E024_000E6, 0x1E026_1E02A_000E6, 0x1E08F_1E08F_000E6, 0x1E130_1E136_000E6,
    0x1E2AE_1E2AE_000E6, 0x1E2EC_1E2EF_000E6, 0x1E4EC_1E4ED_000E8, 0x1E4EE_1E4EE_000DC,
    0x1E4EF_1E4EF_000E6, 0x1E5EE_1E5EE_000E6, 0x1E5EF_1E5EF_000DC, 0x1E6E3_1E6E3_000E6,
    0x1E6E6_1E6E6_000E6, 0x1E6EE_1E6EF_000E6, 0x1E6F5_1E6F5_000E6, 0x1E8D0_1E8D6_000DC,
    0x1E944_1E949_000E6, 0x1E94A_1E94A_00007]

/-- The non-zero classes, by ascending ranges of code points. -/
def classes : Array (Nat × Nat × Nat) := (classEntries.map Lookup.unpack).toArray

def classOf (c : Nat) : Nat := if c < 0x300 then 0 else (Lookup.within? classes c).getD 0

end DocPull.CombiningClass
