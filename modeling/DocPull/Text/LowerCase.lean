import DocPull.Text.Lookup

/-!
# Lower case

Every upper-case letter has one lower-case letter. Most of them lie in runs that keep one distance
from their lower-case letters, or in blocks where the two cases alternate.
-/
namespace DocPull.LowerCase

/-- The runs of Unicode 17: the first and the last code point, and what the first becomes. -/
def runEntries : List Nat :=
  [0x41_0005A_00061, 0xC0_000D6_000E0, 0xD8_000DE_000F8, 0x130_00130_00069, 0x178_00178_000FF,
    0x181_00181_00253, 0x186_00186_00254, 0x189_0018A_00256, 0x18E_0018E_001DD, 0x18F_0018F_00259,
    0x190_00190_0025B, 0x193_00193_00260, 0x194_00194_00263, 0x196_00196_00269, 0x197_00197_00268,
    0x19C_0019C_0026F, 0x19D_0019D_00272, 0x19F_0019F_00275, 0x1A6_001A6_00280, 0x1A9_001A9_00283,
    0x1AE_001AE_00288, 0x1B1_001B2_0028A, 0x1B7_001B7_00292, 0x1C4_001C4_001C6, 0x1C7_001C7_001C9,
    0x1CA_001CA_001CC, 0x1F1_001F1_001F3, 0x1F6_001F6_00195, 0x1F7_001F7_001BF, 0x220_00220_0019E,
    0x23A_0023A_02C65, 0x23D_0023D_0019A, 0x23E_0023E_02C66, 0x243_00243_00180, 0x244_00244_00289,
    0x245_00245_0028C, 0x37F_0037F_003F3, 0x386_00386_003AC, 0x388_0038A_003AD, 0x38C_0038C_003CC,
    0x38E_0038F_003CD, 0x391_003A1_003B1, 0x3A3_003AB_003C3, 0x3CF_003CF_003D7, 0x3F4_003F4_003B8,
    0x3F9_003F9_003F2, 0x3FD_003FF_0037B, 0x400_0040F_00450, 0x410_0042F_00430, 0x4C0_004C0_004CF,
    0x531_00556_00561, 0x10A0_010C5_02D00, 0x10C7_010C7_02D27, 0x10CD_010CD_02D2D,
    0x13A0_013EF_0AB70, 0x13F0_013F5_013F8, 0x1C90_01CBA_010D0, 0x1CBD_01CBF_010FD,
    0x1E9E_01E9E_000DF, 0x1F08_01F0F_01F00, 0x1F18_01F1D_01F10, 0x1F28_01F2F_01F20,
    0x1F38_01F3F_01F30, 0x1F48_01F4D_01F40, 0x1F59_01F59_01F51, 0x1F5B_01F5B_01F53,
    0x1F5D_01F5D_01F55, 0x1F5F_01F5F_01F57, 0x1F68_01F6F_01F60, 0x1F88_01F8F_01F80,
    0x1F98_01F9F_01F90, 0x1FA8_01FAF_01FA0, 0x1FB8_01FB9_01FB0, 0x1FBA_01FBB_01F70,
    0x1FBC_01FBC_01FB3, 0x1FC8_01FCB_01F72, 0x1FCC_01FCC_01FC3, 0x1FD8_01FD9_01FD0,
    0x1FDA_01FDB_01F76, 0x1FE8_01FE9_01FE0, 0x1FEA_01FEB_01F7A, 0x1FEC_01FEC_01FE5,
    0x1FF8_01FF9_01F78, 0x1FFA_01FFB_01F7C, 0x1FFC_01FFC_01FF3, 0x2126_02126_003C9,
    0x212A_0212A_0006B, 0x212B_0212B_000E5, 0x2132_02132_0214E, 0x2160_0216F_02170,
    0x24B6_024CF_024D0, 0x2C00_02C2F_02C30, 0x2C62_02C62_0026B, 0x2C63_02C63_01D7D,
    0x2C64_02C64_0027D, 0x2C6D_02C6D_00251, 0x2C6E_02C6E_00271, 0x2C6F_02C6F_00250,
    0x2C70_02C70_00252, 0x2C7E_02C7F_0023F, 0xA77D_0A77D_01D79, 0xA78D_0A78D_00265,
    0xA7AA_0A7AA_00266, 0xA7AB_0A7AB_0025C, 0xA7AC_0A7AC_00261, 0xA7AD_0A7AD_0026C,
    0xA7AE_0A7AE_0026A, 0xA7B0_0A7B0_0029E, 0xA7B1_0A7B1_00287, 0xA7B2_0A7B2_0029D,
    0xA7B3_0A7B3_0AB53, 0xA7C4_0A7C4_0A794, 0xA7C5_0A7C5_00282, 0xA7C6_0A7C6_01D8E,
    0xA7CB_0A7CB_00264, 0xA7DC_0A7DC_0019B, 0xFF21_0FF3A_0FF41, 0x10400_10427_10428,
    0x104B0_104D3_104D8, 0x10570_1057A_10597, 0x1057C_1058A_105A3, 0x1058C_10592_105B3,
    0x10594_10595_105BB, 0x10C80_10CB2_10CC0, 0x10D50_10D65_10D70, 0x118A0_118BF_118C0,
    0x16E40_16E5F_16E60, 0x16EA0_16EB8_16EBB, 0x1E900_1E921_1E922]

/-- The blocks of Unicode 17 in which the cases alternate: the first and the last upper-case
letter, and what the first becomes. -/
def pairEntries : List Nat :=
  [0x100_0012E_00101, 0x132_00136_00133, 0x139_00147_0013A, 0x14A_00176_0014B, 0x179_0017D_0017A,
    0x182_00184_00183, 0x187_00187_00188, 0x18B_0018B_0018C, 0x191_00191_00192, 0x198_00198_00199,
    0x1A0_001A4_001A1, 0x1A7_001A7_001A8, 0x1AC_001AC_001AD, 0x1AF_001AF_001B0, 0x1B3_001B5_001B4,
    0x1B8_001B8_001B9, 0x1BC_001BC_001BD, 0x1C5_001C5_001C6, 0x1C8_001C8_001C9, 0x1CB_001DB_001CC,
    0x1DE_001EE_001DF, 0x1F2_001F4_001F3, 0x1F8_0021E_001F9, 0x222_00232_00223, 0x23B_0023B_0023C,
    0x241_00241_00242, 0x246_0024E_00247, 0x370_00372_00371, 0x376_00376_00377, 0x3D8_003EE_003D9,
    0x3F7_003F7_003F8, 0x3FA_003FA_003FB, 0x460_00480_00461, 0x48A_004BE_0048B, 0x4C1_004CD_004C2,
    0x4D0_0052E_004D1, 0x1C89_01C89_01C8A, 0x1E00_01E94_01E01, 0x1EA0_01EFE_01EA1,
    0x2183_02183_02184, 0x2C60_02C60_02C61, 0x2C67_02C6B_02C68, 0x2C72_02C72_02C73,
    0x2C75_02C75_02C76, 0x2C80_02CE2_02C81, 0x2CEB_02CED_02CEC, 0x2CF2_02CF2_02CF3,
    0xA640_0A66C_0A641, 0xA680_0A69A_0A681, 0xA722_0A72E_0A723, 0xA732_0A76E_0A733,
    0xA779_0A77B_0A77A, 0xA77E_0A786_0A77F, 0xA78B_0A78B_0A78C, 0xA790_0A792_0A791,
    0xA796_0A7A8_0A797, 0xA7B4_0A7C2_0A7B5, 0xA7C7_0A7C9_0A7C8, 0xA7CC_0A7DA_0A7CD,
    0xA7F5_0A7F5_0A7F6]

def runs : Array (Nat × Nat × Nat) := (runEntries.map Lookup.unpack).toArray

def pairs : Array (Nat × Nat × Nat) := (pairEntries.map Lookup.unpack).toArray

/-- The lower-case form of a code point. -/
def ofPoint (c : Nat) : Nat :=
  match (Lookup.last? runs c).filter fun (_, hi, _) => c ≤ hi with
  | some (lo, _, first) => first + (c - lo)
  | none =>
    match (Lookup.last? pairs c).filter fun (lo, hi, _) => c ≤ hi && (c - lo) % 2 = 0 with
    | some _ => c + 1
    | none => c

def ofChar (c : Char) : Char :=
  if c.toNat < 0x80 then c.toLower else Char.ofNat (ofPoint c.toNat)

end DocPull.LowerCase
