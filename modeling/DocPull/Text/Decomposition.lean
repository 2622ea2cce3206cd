import DocPull.Text.CombiningClass

/-!
# Canonical decompositions

A code point with a canonical decomposition stands for one or two others. The pairs that
composition may form again are kept apart from the decompositions that are one-way.
-/
namespace DocPull.Decomposition

/-- The primary composites of Unicode 17: the code point and its two parts. -/
def compositeEntries : List Nat :=
  [0xC0_00041_00300, 0xC1_00041_00301, 0xC2_00041_00302, 0xC3_00041_00303, 0xC4_00041_00308,
    0xC5_00041_0030A, 0xC7_00043_00327, 0xC8_00045_00300, 0xC9_00045_00301, 0xCA_00045_00302,
    0xCB_00045_00308, 0xCC_00049_00300, 0xCD_00049_00301, 0xCE_00049_00302, 0xCF_00049_00308,
    0xD1_0004E_00303, 0xD2_0004F_00300, 0xD3_0004F_00301, 0xD4_0004F_00302, 0xD5_0004F_00303,
    0xD6_0004F_00308, 0xD9_00055_00300, 0xDA_00055_00301, 0xDB_00055_00302, 0xDC_00055_00308,
    0xDD_00059_00301, 0xE0_00061_00300, 0xE1_00061_00301, 0xE2_00061_00302, 0xE3_00061_00303,
    0xE4_00061_00308, 0xE5_00061_0030A, 0xE7_00063_00327, 0xE8_00065_00300, 0xE9_00065_00301,
    0xEA_00065_00302, 0xEB_00065_00308, 0xEC_00069_00300, 0xED_00069_00301, 0xEE_00069_00302,
    0xEF_00069_00308, 0xF1_0006E_00303, 0xF2_0006F_00300, 0xF3_0006F_00301, 0xF4_0006F_00302,
    0xF5_0006F_00303, 0xF6_0006F_00308, 0xF9_00075_00300, 0xFA_00075_00301, 0xFB_00075_00302,
    0xFC_00075_00308, 0xFD_00079_00301, 0xFF_00079_00308, 0x100_00041_00304, 0x101_00061_00304,
    0x102_00041_00306, 0x103_00061_00306, 0x104_00041_00328, 0x105_00061_00328, 0x106_00043_00301,
    0x107_00063_00301, 0x108_00043_00302, 0x109_00063_00302, 0x10A_00043_00307, 0x10B_00063_00307,
    0x10C_00043_0030C, 0x10D_00063_0030C, 0x10E_00044_0030C, 0x10F_00064_0030C, 0x112_00045_00304,
    0x113_00065_00304, 0x114_00045_00306, 0x115_00065_00306, 0x116_00045_00307, 0x117_00065_00307,
    0x118_00045_00328, 0x119_00065_00328, 0x11A_00045_0030C, 0x11B_00065_0030C, 0x11C_00047_00302,
    0x11D_00067_00302, 0x11E_00047_00306, 0x11F_00067_00306, 0x120_00047_00307, 0x121_00067_00307,
    0x122_00047_00327, 0x123_00067_00327, 0x124_00048_00302, 0x125_00068_00302, 0x128_00049_00303,
    0x129_00069_00303, 0x12A_00049_00304, 0x12B_00069_00304, 0x12C_00049_00306, 0x12D_00069_00306,
    0x12E_00049_00328, 0x12F_00069_00328, 0x130_00049_00307, 0x134_0004A_00302, 0x135_0006A_00302,
    0x136_0004B_00327, 0x137_0006B_00327, 0x139_0004C_00301, 0x13A_0006C_00301, 0x13B_0004C_00327,
    0x13C_0006C_00327, 0x13D_0004C_0030C, 0x13E_0006C_0030C, 0x143_0004E_00301, 0x144_0006E_00301,
    0x145_0004E_00327, 0x146_0006E_00327, 0x147_0004E_0030C, 0x148_0006E_0030C, 0x14C_0004F_00304,
    0x14D_0006F_00304, 0x14E_0004F_00306, 0x14F_0006F_00306, 0x150_0004F_0030B, 0x151_0006F_0030B,
    0x154_00052_00301, 0x155_00072_00301, 0x156_00052_00327, 0x157_00072_00327, 0x158_00052_0030C,
    0x159_00072_0030C, 0x15A_00053_00301, 0x15B_00073_00301, 0x15C_00053_00302, 0x15D_00073_00302,
    0x15E_00053_00327, 0x15F_00073_00327, 0x160_00053_0030C, 0x161_00073_0030C, 0x162_00054_00327,
    0x163_00074_00327, 0x164_00054_0030C, 0x165_00074_0030C, 0x168_00055_00303, 0x169_00075_00303,
    0x16A_00055_00304, 0x16B_00075_00304, 0x16C_00055_00306, 0x16D_00075_00306, 0x16E_00055_0030A,
    0x16F_00075_0030A, 0x170_00055_0030B, 0x171_00075_0030B, 0x172_00055_00328, 0x173_00075_00328,
    0x174_00057_00302, 0x175_00077_00302, 0x176_00059_00302, 0x177_00079_00302, 0x178_00059_00308,
    0x179_0005A_00301, 0x17A_0007A_00301, 0x17B_0005A_00307, 0x17C_0007A_00307, 0x17D_0005A_0030C,
    0x17E_0007A_0030C, 0x1A0_0004F_0031B, 0x1A1_0006F_0031B, 0x1AF_00055_0031B, 0x1B0_00075_0031B,
    0x1CD_00041_0030C, 0x1CE_00061_0030C, 0x1CF_00049_0030C, 0x1D0_00069_0030C, 0x1D1_0004F_0030C,
    0x1D2_0006F_0030C, 0x1D3_00055_0030C, 0x1D4_00075_0030C, 0x1D5_000DC_00304, 0x1D6_000FC_00304,
    0x1D7_000DC_00301, 0x1D8_000FC_00301, 0x1D9_000DC_0030C, 0x1DA_000FC_0030C, 0x1DB_000DC_00300,
    0x1DC_000FC_00300, 0x1DE_000C4_00304, 0x1DF_000E4_00304, 0x1E0_00226_00304, 0x1E1_00227_00304,
    0x1E2_000C6_00304, 0x1E3_000E6_00304, 0x1E6_00047_0030C, 0x1E7_00067_0030C, 0x1E8_0004B_0030C,
    0x1E9_0006B_0030C, 0x1EA_0004F_00328, 0x1EB_0006F_00328, 0x1EC_001EA_00304, 0x1ED_001EB_00304,
    0x1EE_001B7_0030C, 0x1EF_00292_0030C, 0x1F0_0006A_0030C, 0x1F4_00047_00301, 0x1F5_00067_00301,
    0x1F8_0004E_00300, 0x1F9_0006E_00300, 0x1FA_000C5_00301, 0x1FB_000E5_00301, 0x1FC_000C6_00301,
    0x1FD_000E6_00301, 0x1FE_000D8_00301, 0x1FF_000F8_00301, 0x200_00041_0030F, 0x201_00061_0030F,
    0x202_00041_00311, 0x203_00061_00311, 0x204_00045_0030F, 0x205_00065_0030F, 0x206_00045_00311,
    0x207_00065_00311, 0x208_00049_0030F, 0x209_00069_0030F, 0x20A_00049_00311, 0x20B_00069_00311,
    0x20C_0004F_0030F, 0x20D_0006F_0030F, 0x20E_0004F_00311, 0x20F_0006F_00311, 0x210_00052_0030F,
    0x211_00072_0030F, 0x212_00052_00311, 0x213_00072_00311, 0x214_00055_0030F, 0x215_00075_0030F,
    0x216_00055_00311, 0x217_00075_00311, 0x218_00053_00326, 0x219_00073_00326, 0x21A_00054_00326,
    0x21B_00074_00326, 0x21E_00048_0030C, 0x21F_00068_0030C, 0x226_00041_00307, 0x227_00061_00307,
    0x228_00045_00327, 0x229_00065_00327, 0x22A_000D6_00304, 0x22B_000F6_00304, 0x22C_000D5_00304,
    0x22D_000F5_00304, 0x22E_0004F_00307, 0x22F_0006F_00307, 0x230_0022E_00304, 0x231_0022F_00304,
    0x232_00059_00304, 0x233_00079_00304, 0x385_000A8_00301, 0x386_00391_00301, 0x388_00395_00301,
    0x389_00397_00301, 0x38A_00399_00301, 0x38C_0039F_00301, 0x38E_003A5_00301, 0x38F_003A9_00301,
    0x390_003CA_00301, 0x3AA_00399_00308, 0x3AB_003A5_00308, 0x3AC_003B1_00301, 0x3AD_003B5_00301,
    0x3AE_003B7_00301, 0x3AF_003B9_00301, 0x3B0_003CB_00301, 0x3CA_003B9_00308, 0x3CB_003C5_00308,
    0x3CC_003BF_00301, 0x3CD_003C5_00301, 0x3CE_003C9_00301, 0x3D3_003D2_00301, 0x3D4_003D2_00308,
    0x400_00415_00300, 0x401_00415_00308, 0x403_00413_00301, 0x407_00406_00308, 0x40C_0041A_00301,
    0x40D_00418_00300, 0x40E_00423_00306, 0x419_00418_00306, 0x439_00438_00306, 0x450_00435_00300,
    0x451_00435_00308, 0x453_00433_00301, 0x457_00456_00308, 0x45C_0043A_00301, 0x45D_00438_00300,
    0x45E_00443_00306, 0x476_00474_0030F, 0x477_00475_0030F, 0x4C1_00416_00306, 0x4C2_00436_00306,
    0x4D0_00410_00306, 0x4D1_00430_00306, 0x4D2_00410_00308, 0x4D3_00430_00308, 0x4D6_00415_00306,
    0x4D7_00435_00306, 0x4DA_004D8_00308, 0x4DB_004D9_00308, 0x4DC_00416_00308, 0x4DD_00436_00308,
    0x4DE_00417_00308, 0x4DF_00437_00308, 0x4E2_00418_00304, 0x4E3_00438_00304, 0x4E4_00418_00308,
    0x4E5_00438_00308, 0x4E6_0041E_00308, 0x4E7_0043E_00308, 0x4EA_004E8_00308, 0x4EB_004E9_00308,
    0x4EC_0042D_00308, 0x4ED_0044D_00308, 0x4EE_00423_00304, 0x4EF_00443_00304, 0x4F0_00423_00308,
    0x4F1_00443_00308, 0x4F2_00423_0030B, 0x4F3_00443_0030B, 0x4F4_00427_00308, 0x4F5_00447_00308,
    0x4F8_0042B_00308, 0x4F9_0044B_00308, 0x622_00627_00653, 0x623_00627_00654, 0x624_00648_00654,
    0x625_00627_00655, 0x626_0064A_00654, 0x6C0_006D5_00654, 0x6C2_006C1_00654, 0x6D3_006D2_00654,
    0x929_00928_0093C, 0x931_00930_0093C, 0x934_00933_0093C, 0x9CB_009C7_009BE, 0x9CC_009C7_009D7,
    0xB48_00B47_00B56, 0xB4B_00B47_00B3E, 0xB4C_00B47_00B57, 0xB94_00B92_00BD7, 0xBCA_00BC6_00BBE,
    0xBCB_00BC7_00BBE, 0xBCC_00BC6_00BD7, 0xC48_00C46_00C56, 0xCC0_00CBF_00CD5, 0xCC7_00CC6_00CD5,
    0xCC8_00CC6_00CD6, 0xCCA_00CC6_00CC2, 0xCCB_00CCA_00CD5, 0xD4A_00D46_00D3E, 0xD4B_00D47_00D3E,
    0xD4C_00D46_00D57, 0xDDA_00DD9_00DCA, 0xDDC_00DD9_00DCF, 0xDDD_00DDC_00DCA, 0xDDE_00DD9_00DDF,
    0x1026_01025_0102E, 0x1B06_01B05_01B35, 0x1B08_01B07_01B35, 0x1B0A_01B09_01B35,
    0x1B0C_01B0B_01B35, 0x1B0E_01B0D_01B35, 0x1B12_01B11_01B35, 0x1B3B_01B3A_01B35,
    0x1B3D_01B3C_01B35, 0x1B40_01B3E_01B35, 0x1B41_01B3F_01B35, 0x1B43_01B42_01B35,
    0x1E00_00041_00325, 0x1E01_00061_00325, 0x1E02_00042_00307, 0x1E03_00062_00307,
    0x1E04_00042_00323, 0x1E05_00062_00323, 0x1E06_00042_00331, 0x1E07_00062_00331,
    0x1E08_000C7_00301, 0x1E09_000E7_00301, 0x1E0A_00044_00307, 0x1E0B_00064_00307,
    0x1E0C_00044_00323, 0x1E0D_00064_00323, 0x1E0E_00044_00331, 0x1E0F_00064_00331,
    0x1E10_00044_00327, 0x1E11_00064_00327, 0x1E12_00044_0032D, 0x1E13_00064_0032D,
    0x1E14_00112_00300, 0x1E15_00113_00300, 0x1E16_00112_00301, 0x1E17_00113_00301,
    0x1E18_00045_0032D, 0x1E19_00065_0032D, 0x1E1A_00045_00330, 0x1E1B_00065_00330,
    0x1E1C_00228_00306, 0x1E1D_00229_00306, 0x1E1E_00046_00307, 0x1E1F_00066_00307,
    0x1E20_00047_00304, 0x1E21_00067_00304, 0x1E22_00048_00307, 0x1E23_00068_00307,
    0x1E24_00048_00323, 0x1E25_00068_00323, 0x1E26_00048_00308, 0x1E27_00068_00308,
    0x1E28_00048_00327, 0x1E29_00068_00327, 0x1E2A_00048_0032E, 0x1E2B_00068_0032E,
    0x1E2C_00049_00330, 0x1E2D_00069_00330, 0x1E2E_000CF_00301, 0x1E2F_000EF_00301,
    0x1E30_0004B_00301, 0x1E31_0006B_00301, 0x1E32_0004B_00323, 0x1E33_0006B_00323,
    0x1E34_0004B_00331, 0x1E35_0006B_00331, 0x1E36_0004C_00323, 0x1E37_0006C_00323,
    0x1E38_01E36_00304, 0x1E39_01E37_00304, 0x1E3A_0004C_00331, 0x1E3B_0006C_00331,
    0x1E3C_0004C_0032D, 0x1E3D_0006C_0032D, 0x1E3E_0004D_00301, 0x1E3F_0006D_00301,
    0x1E40_0004D_00307, 0x1E41_0006D_00307, 0x1E42_0004D_00323, 0x1E43_0006D_00323,
    0x1E44_0004E_00307, 0x1E45_0006E_00307, 0x1E46_0004E_00323, 0x1E47_0006E_00323,
    0x1E48_0004E_00331, 0x1E49_0006E_00331, 0x1E4A_0004E_0032D, 0x1E4B_0006E_0032D,
    0x1E4C_000D5_00301, 0x1E4D_000F5_00301, 0x1E4E_000D5_00308, 0x1E4F_000F5_00308,
    0x1E50_0014C_00300, 0x1E51_0014D_00300, 0x1E52_0014C_00301, 0x1E53_0014D_00301,
    0x1E54_00050_00301, 0x1E55_00070_00301, 0x1E56_00050_00307, 0x1E57_00070_00307,
    0x1E58_00052_00307, 0x1E59_00072_00307, 0x1E5A_00052_00323, 0x1E5B_00072_00323,
    0x1E5C_01E5A_00304, 0x1E5D_01E5B_00304, 0x1E5E_00052_00331, 0x1E5F_00072_00331,
    0x1E60_00053_00307, 0x1E61_00073_00307, 0x1E62_00053_00323, 0x1E63_00073_00323,
    0x1E64_0015A_00307, 0x1E65_0015B_00307, 0x1E66_00160_00307, 0x1E67_00161_00307,
    0x1E68_01E62_00307, 0x1E69_01E63_00307, 0x1E6A_00054_00307, 0x1E6B_00074_00307,
    0x1E6C_00054_00323, 0x1E6D_00074_00323, 0x1E6E_00054_00331, 0x1E6F_00074_00331,
    0x1E70_00054_0032D, 0x1E71_00074_0032D, 0x1E72_00055_00324, 0x1E73_00075_00324,
    0x1E74_00055_00330, 0x1E75_00075_00330, 0x1E76_00055_0032D, 0x1E77_00075_0032D,
    0x1E78_00168_00301, 0x1E79_00169_00301, 0x1E7A_0016A_00308, 0x1E7B_0016B_00308,
    0x1E7C_00056_00303, 0x1E7D_00076_00303, 0x1E7E_00056_00323, 0x1E7F_00076_00323,
    0x1E80_00057_00300, 0x1E81_00077_00300, 0x1E82_00057_00301, 0x1E83_00077_00301,
    0x1E84_00057_00308, 0x1E85_00077_00308, 0x1E86_00057_00307, 0x1E87_00077_00307,
    0x1E88_00057_00323, 0x1E89_00077_00323, 0x1E8A_00058_00307, 0x1E8B_00078_00307,
    0x1E8C_00058_00308, 0x1E8D_00078_00308, 0x1E8E_00059_00307, 0x1E8F_00079_00307,
    0x1E90_0005A_00302, 0x1E91_0007A_00302, 0x1E92_0005A_00323, 0x1E93_0007A_00323,
    0x1E94_0005A_00331, 0x1E95_0007A_00331, 0x1E96_00068_00331, 0x1E97_00074_00308,
    0x1E98_00077_0030A, 0x1E99_00079_0030A, 0x1E9B_0017F_00307, 0x1EA0_00041_00323,
    0x1EA1_00061_00323, 0x1EA2_00041_00309, 0x1EA3_00061_00309, 0x1EA4_000C2_00301,
    0x1EA5_000E2_00301, 0x1EA6_000C2_00300, 0x1EA7_000E2_00300, 0x1EA8_000C2_00309,
    0x1EA9_000E2_00309, 0x1EAA_000C2_00303, 0x1EAB_000E2_00303, 0x1EAC_01EA0_00302,
    0x1EAD_01EA1_00302, 0x1EAE_00102_00301, 0x1EAF_00103_00301, 0x1EB0_00102_00300,
    0x1EB1_00103_00300, 0x1EB2_00102_00309, 0x1EB3_00103_00309, 0x1EB4_00102_00303,
    0x1EB5_00103_00303, 0x1EB6_01EA0_00306, 0x1EB7_01EA1_00306, 0x1EB8_00045_00323,
    0x1EB9_00065_00323, 0x1EBA_00045_00309, 0x1EBB_00065_00309, 0x1EBC_00045_00303,
    0x1EBD_00065_00303, 0x1EBE_000CA_00301, 0x1EBF_000EA_00301, 0x1EC0_000CA_00300,
    0x1EC1_000EA_00300, 0x1EC2_000CA_00309, 0x1EC3_000EA_00309, 0x1EC4_000CA_00303,
    0x1EC5_000EA_00303, 0x1EC6_01EB8_00302, 0x1EC7_01EB9_00302, 0x1EC8_00049_00309,
    0x1EC9_00069_00309, 0x1ECA_00049_00323, 0x1ECB_00069_00323, 0x1ECC_0004F_00323,
    0x1ECD_0006F_00323, 0x1ECE_0004F_00309, 0x1ECF_0006F_00309, 0x1ED0_000D4_00301,
    0x1ED1_000F4_00301, 0x1ED2_000D4_00300, 0x1ED3_000F4_00300, 0x1ED4_000D4_00309,
    0x1ED5_000F4_00309, 0x1ED6_000D4_00303, 0x1ED7_000F4_00303, 0x1ED8_01ECC_00302,
    0x1ED9_01ECD_00302, 0x1EDA_001A0_00301, 0x1EDB_001A1_00301, 0x1EDC_001A0_00300,
    0x1EDD_001A1_00300, 0x1EDE_001A0_00309, 0x1EDF_001A1_00309, 0x1EE0_001A0_00303,
    0x1EE1_001A1_00303, 0x1EE2_001A0_00323, 0x1EE3_001A1_00323, 0x1EE4_00055_00323,
    0x1EE5_00075_00323, 0x1EE6_00055_00309, 0x1EE7_00075_00309, 0x1EE8_001AF_00301,
    0x1EE9_001B0_00301, 0x1EEA_001AF_00300, 0x1EEB_001B0_00300, 0x1EEC_001AF_00309,
    0x1EED_001B0_00309, 0x1EEE_001AF_00303, 0x1EEF_001B0_00303, 0x1EF0_001AF_00323,
    0x1EF1_001B0_00323, 0x1EF2_00059_00300, 0x1EF3_00079_00300, 0x1EF4_00059_00323,
    0x1EF5_00079_00323, 0x1EF6_00059_00309, 0x1EF7_00079_00309, 0x1EF8_00059_00303,
    0x1EF9_00079_00303, 0x1F00_003B1_00313, 0x1F01_003B1_00314, 0x1F02_01F00_00300,
    0x1F03_01F01_00300, 0x1F04_01F00_00301, 0x1F05_01F01_00301, 0x1F06_01F00_00342,
    0x1F07_01F01_00342, 0x1F08_00391_00313, 0x1F09_00391_00314, 0x1F0A_01F08_00300,
    0x1F0B_01F09_00300, 0x1F0C_01F08_00301, 0x1F0D_01F09_00301, 0x1F0E_01F08_00342,
    0x1F0F_01F09_00342, 0x1F10_003B5_00313, 0x1F11_003B5_00314, 0x1F12_01F10_00300,
    0x1F13_01F11_00300, 0x1F14_01F10_00301, 0x1F15_01F11_00301, 0x1F18_00395_00313,
    0x1F19_00395_00314, 0x1F1A_01F18_00300, 0x1F1B_01F19_00300, 0x1F1C_01F18_00301,
    0x1F1D_01F19_00301, 0x1F20_003B7_00313, 0x1F21_003B7_00314, 0x1F22_01F20_00300,
    0x1F23_01F21_00300, 0x1F24_01F20_00301, 0x1F25_01F21_00301, 0x1F26_01F20_00342,
    0x1F27_01F21_00342, 0x1F28_00397_00313, 0x1F29_00397_00314, 0x1F2A_01F28_00300,
    0x1F2B_01F29_00300, 0x1F2C_01F28_00301, 0x1F2D_01F29_00301, 0x1F2E_01F28_00342,
    0x1F2F_01F29_00342, 0x1F30_003B9_00313, 0x1F31_003B9_00314, 0x1F32_01F30_00300,
    0x1F33_01F31_00300, 0x1F34_01F30_00301, 0x1F35_01F31_00301, 0x1F36_01F30_00342,
    0x1F37_01F31_00342, 0x1F38_00399_00313, 0x1F39_00399_00314, 0x1F3A_01F38_00300,
    0x1F3B_01F39_00300, 0x1F3C_01F38_00301, 0x1F3D_01F39_00301, 0x1F3E_01F38_00342,
    0x1F3F_01F39_00342, 0x1F40_003BF_00313, 0x1F41_003BF_00314, 0x1F42_01F40_00300,
    0x1F43_01F41_00300, 0x1F44_01F40_00301, 0x1F45_01F41_00301, 0x1F48_0039F_00313,
    0x1F49_0039F_00314, 0x1F4A_01F48_00300, 0x1F4B_01F49_00300, 0x1F4C_01F48_00301,
    0x1F4D_01F49_00301, 0x1F50_003C5_00313, 0x1F51_003C5_00314, 0x1F52_01F50_00300,
    0x1F53_01F51_00300, 0x1F54_01F50_00301, 0x1F55_01F51_00301, 0x1F56_01F50_00342,
    0x1F57_01F51_00342, 0x1F59_003A5_00314, 0x1F5B_01F59_00300, 0x1F5D_01F59_00301,
    0x1F5F_01F59_00342, 0x1F60_003C9_00313, 0x1F61_003C9_00314, 0x1F62_01F60_00300,
    0x1F63_01F61_00300, 0x1F64_01F60_00301, 0x1F65_01F61_00301, 0x1F66_01F60_00342,
    0x1F67_01F61_00342, 0x1F68_003A9_00313, 0x1F69_003A9_00314, 0x1F6A_01F68_00300,
    0x1F6B_01F69_00300, 0x1F6C_01F68_00301, 0x1F6D_01F69_00301, 0x1F6E_01F68_00342,
    0x1F6F_01F69_00342, 0x1F70_003B1_00300, 0x1F72_003B5_00300, 0x1F74_003B7_00300,
    0x1F76_003B9_00300, 0x1F78_003BF_00300, 0x1F7A_003C5_00300, 0x1F7C_003C9_00300,
    0x1F80_01F00_00345, 0x1F81_01F01_00345, 0x1F82_01F02_00345, 0x1F83_01F03_00345,
    0x1F84_01F04_00345, 0x1F85_01F05_00345, 0x1F86_01F06_00345, 0x1F87_01F07_00345,
    0x1F88_01F08_00345, 0x1F89_01F09_00345, 0x1F8A_01F0A_00345, 0x1F8B_01F0B_00345,
    0x1F8C_01F0C_00345, 0x1F8D_01F0D_00345, 0x1F8E_01F0E_00345, 0x1F8F_01F0F_00345,
    0x1F90_01F20_00345, 0x1F91_01F21_00345, 0x1F92_01F22_00345, 0x1F93_01F23_00345,
    0x1F94_01F24_00345, 0x1F95_01F25_00345, 0x1F96_01F26_00345, 0x1F97_01F27_00345,
    0x1F98_01F28_00345, 0x1F99_01F29_00345, 0x1F9A_01F2A_00345, 0x1F9B_01F2B_00345,
    0x1F9C_01F2C_00345, 0x1F9D_01F2D_00345, 0x1F9E_01F2E_00345, 0x1F9F_01F2F_00345,
    0x1FA0_01F60_00345, 0x1FA1_01F61_00345, 0x1FA2_01F62_00345, 0x1FA3_01F63_00345,
    0x1FA4_01F64_00345, 0x1FA5_01F65_00345, 0x1FA6_01F66_00345, 0x1FA7_01F67_00345,
    0x1FA8_01F68_00345, 0x1FA9_01F69_00345, 0x1FAA_01F6A_00345, 0x1FAB_01F6B_00345,
    0x1FAC_01F6C_00345, 0x1FAD_01F6D_00345, 0x1FAE_01F6E_00345, 0x1FAF_01F6F_00345,
    0x1FB0_003B1_00306, 0x1FB1_003B1_00304, 0x1FB2_01F70_00345, 0x1FB3_003B1_00345,
    0x1FB4_003AC_00345, 0x1FB6_003B1_00342, 0x1FB7_01FB6_00345, 0x1FB8_00391_00306,
    0x1FB9_00391_00304, 0x1FBA_00391_00300, 0x1FBC_00391_00345, 0x1FC1_000A8_00342,
    0x1FC2_01F74_00345, 0x1FC3_003B7_00345, 0x1FC4_003AE_00345, 0x1FC6_003B7_00342,
    0x1FC7_01FC6_00345, 0x1FC8_00395_00300, 0x1FCA_00397_00300, 0x1FCC_00397_00345,
    0x1FCD_01FBF_00300, 0x1FCE_01FBF_00301, 0x1FCF_01FBF_00342, 0x1FD0_003B9_00306,
    0x1FD1_003B9_00304, 0x1FD2_003CA_00300, 0x1FD6_003B9_00342, 0x1FD7_003CA_00342,
    0x1FD8_00399_00306, 0x1FD9_00399_00304, 0x1FDA_00399_00300, 0x1FDD_01FFE_00300,
    0x1FDE_01FFE_00301, 0x1FDF_01FFE_00342, 0x1FE0_003C5_00306, 0x1FE1_003C5_00304,
    0x1FE2_003CB_00300, 0x1FE4_003C1_00313, 0x1FE5_003C1_00314, 0x1FE6_003C5_00342,
    0x1FE7_003CB_00342, 0x1FE8_003A5_00306, 0x1FE9_003A5_00304, 0x1FEA_003A5_00300,
    0x1FEC_003A1_00314, 0x1FED_000A8_00300, 0x1FF2_01F7C_00345, 0x1FF3_003C9_00345,
    0x1FF4_003CE_00345, 0x1FF6_003C9_00342, 0x1FF7_01FF6_00345, 0x1FF8_0039F_00300,
    0x1FFA_003A9_00300, 0x1FFC_003A9_00345, 0x219A_02190_00338, 0x219B_02192_00338,
    0x21AE_02194_00338, 0x21CD_021D0_00338, 0x21CE_021D4_00338, 0x21CF_021D2_00338,
    0x2204_02203_00338, 0x2209_02208_00338, 0x220C_0220B_00338, 0x2224_02223_00338,
    0x2226_02225_00338, 0x2241_0223C_00338, 0x2244_02243_00338, 0x2247_02245_00338,
    0x2249_02248_00338, 0x2260_0003D_00338, 0x2262_02261_00338, 0x226D_0224D_00338,
    0x226E_0003C_00338, 0x226F_0003E_00338, 0x2270_02264_00338, 0x2271_02265_00338,
    0x2274_02272_00338, 0x2275_02273_00338, 0x2278_02276_00338, 0x2279_02277_00338,
    0x2280_0227A_00338, 0x2281_0227B_00338, 0x2284_02282_00338, 0x2285_02283_00338,
    0x2288_02286_00338, 0x2289_02287_00338, 0x22AC_022A2_00338, 0x22AD_022A8_00338,
    0x22AE_022A9_00338, 0x22AF_022AB_00338, 0x22E0_0227C_00338, 0x22E1_0227D_00338,
    0x22E2_02291_00338, 0x22E3_02292_00338, 0x22EA_022B2_00338, 0x22EB_022B3_00338,
    0x22EC_022B4_00338, 0x22ED_022B5_00338, 0x304C_0304B_03099, 0x304E_0304D_03099,
    0x3050_0304F_03099, 0x3052_03051_03099, 0x3054_03053_03099, 0x3056_03055_03099,
    0x3058_03057_03099, 0x305A_03059_03099, 0x305C_0305B_03099, 0x305E_0305D_03099,
    0x3060_0305F_03099, 0x3062_03061_03099, 0x3065_03064_03099, 0x3067_03066_03099,
    0x3069_03068_03099, 0x3070_0306F_03099, 0x3071_0306F_0309A, 0x3073_03072_03099,
    0x3074_03072_0309A, 0x3076_03075_03099, 0x3077_03075_0309A, 0x3079_03078_03099,
    0x307A_03078_0309A, 0x307C_0307B_03099, 0x307D_0307B_0309A, 0x3094_03046_03099,
    0x309E_0309D_03099, 0x30AC_030AB_03099, 0x30AE_030AD_03099, 0x30B0_030AF_03099,
    0x30B2_030B1_03099, 0x30B4_030B3_03099, 0x30B6_030B5_03099, 0x30B8_030B7_03099,
    0x30BA_030B9_03099, 0x30BC_030BB_03099, 0x30BE_030BD_03099, 0x30C0_030BF_03099,
    0x30C2_030C1_03099, 0x30C5_030C4_03099, 0x30C7_030C6_03099, 0x30C9_030C8_03099,
    0x30D0_030CF_03099, 0x30D1_030CF_0309A, 0x30D3_030D2_03099, 0x30D4_030D2_0309A,
    0x30D6_030D5_03099, 0x30D7_030D5_0309A, 0x30D9_030D8_03099, 0x30DA_030D8_0309A,
    0x30DC_030DB_03099, 0x30DD_030DB_0309A, 0x30F4_030A6_03099, 0x30F7_030EF_03099,
    0x30F8_030F0_03099, 0x30F9_030F1_03099, 0x30FA_030F2_03099, 0x30FE_030FD_03099,
    0x105C9_105D2_00307, 0x105E4_105DA_00307, 0x1109A_11099_110BA, 0x1109C_1109B_110BA,
    0x110AB_110A5_110BA, 0x1112E_11131_11127, 0x1112F_11132_11127, 0x1134B_11347_1133E,
    0x1134C_11347_11357, 0x11383_11382_113C9, 0x11385_11384_113BB, 0x1138E_1138B_113C2,
    0x11391_11390_113C9, 0x113C5_113C2_113C2, 0x113C7_113C2_113B8, 0x113C8_113C2_113C9,
    0x114BB_114B9_114BA, 0x114BC_114B9_114B0, 0x114BE_114B9_114BD, 0x115BA_115B8_115AF,
    0x115BB_115B9_115AF, 0x11938_11935_11930, 0x16121_1611E_1611E, 0x16122_1611E_16129,
    0x16123_1611E_1611F, 0x16124_16129_1611F, 0x16125_1611E_16120, 0x16126_16121_1611F,
    0x16127_16122_1611F, 0x16128_16121_16120, 0x16D68_16D67_16D67, 0x16D69_16D63_16D67,
    0x16D6A_16D69_16D67]

/-- The decompositions that composition does not undo: the code point and its one or two parts. -/
def oneWayEntries : List Nat :=
  [0x340_00300, 0x341_00301, 0x343_00313, 0x344_00308_00301, 0x374_002B9, 0x37E_0003B, 0x387_000B7,
    0x958_00915_0093C, 0x959_00916_0093C, 0x95A_00917_0093C, 0x95B_0091C_0093C, 0x95C_00921_0093C,
    0x95D_00922_0093C, 0x95E_0092B_0093C, 0x95F_0092F_0093C, 0x9DC_009A1_009BC, 0x9DD_009A2_009BC,
    0x9DF_009AF_009BC, 0xA33_00A32_00A3C, 0xA36_00A38_00A3C, 0xA59_00A16_00A3C, 0xA5A_00A17_00A3C,
    0xA5B_00A1C_00A3C, 0xA5E_00A2B_00A3C, 0xB5C_00B21_00B3C, 0xB5D_00B22_00B3C, 0xF43_00F42_00FB7,
    0xF4D_00F4C_00FB7, 0xF52_00F51_00FB7, 0xF57_00F56_00FB7, 0xF5C_00F5B_00FB7, 0xF69_00F40_00FB5,
    0xF73_00F71_00F72, 0xF75_00F71_00F74, 0xF76_00FB2_00F80, 0xF78_00FB3_00F80, 0xF81_00F71_00F80,
    0xF93_00F92_00FB7, 0xF9D_00F9C_00FB7, 0xFA2_00FA1_00FB7, 0xFA7_00FA6_00FB7, 0xFAC_00FAB_00FB7,
    0xFB9_00F90_00FB5, 0x1F71_003AC, 0x1F73_003AD, 0x1F75_003AE, 0x1F77_003AF, 0x1F79_003CC,
    0x1F7B_003CD, 0x1F7D_003CE, 0x1FBB_00386, 0x1FBE_003B9, 0x1FC9_00388, 0x1FCB_00389,
    0x1FD3_00390, 0x1FDB_0038A, 0x1FE3_003B0, 0x1FEB_0038E, 0x1FEE_00385, 0x1FEF_00060,
    0x1FF9_0038C, 0x1FFB_0038F, 0x1FFD_000B4, 0x2000_02002, 0x2001_02003, 0x2126_003A9,
    0x212A_0004B, 0x212B_000C5, 0x2329_03008, 0x232A_03009, 0x2ADC_02ADD_00338, 0xF900_08C48,
    0xF901_066F4, 0xF902_08ECA, 0xF903_08CC8, 0xF904_06ED1, 0xF905_04E32, 0xF906_053E5,
    0xF907_09F9C, 0xF908_09F9C, 0xF909_05951, 0xF90A_091D1, 0xF90B_05587, 0xF90C_05948,
    0xF90D_061F6, 0xF90E_07669, 0xF90F_07F85, 0xF910_0863F, 0xF911_087BA, 0xF912_088F8,
    0xF913_0908F, 0xF914_06A02, 0xF915_06D1B, 0xF916_070D9, 0xF917_073DE, 0xF918_0843D,
    0xF919_0916A, 0xF91A_099F1, 0xF91B_04E82, 0xF91C_05375, 0xF91D_06B04, 0xF91E_0721B,
    0xF91F_0862D, 0xF920_09E1E, 0xF921_05D50, 0xF922_06FEB, 0xF923_085CD, 0xF924_08964,
    0xF925_062C9, 0xF926_081D8, 0xF927_0881F, 0xF928_05ECA, 0xF929_06717, 0xF92A_06D6A,
    0xF92B_072FC, 0xF92C_090CE, 0xF92D_04F86, 0xF92E_051B7, 0xF92F_052DE, 0xF930_064C4,
    0xF931_06AD3, 0xF932_07210, 0xF933_076E7, 0xF934_08001, 0xF935_08606, 0xF936_0865C,
    0xF937_08DEF, 0xF938_09732, 0xF939_09B6F, 0xF93A_09DFA, 0xF93B_0788C, 0xF93C_0797F,
    0xF93D_07DA0, 0xF93E_083C9, 0xF93F_09304, 0xF940_09E7F, 0xF941_08AD6, 0xF942_058DF,
    0xF943_05F04, 0xF944_07C60, 0xF945_0807E, 0xF946_07262, 0xF947_078CA, 0xF948_08CC2,
    0xF949_096F7, 0xF94A_058D8, 0xF94B_05C62, 0xF94C_06A13, 0xF94D_06DDA, 0xF94E_06F0F,
    0xF94F_07D2F, 0xF950_07E37, 0xF951_0964B, 0xF952_052D2, 0xF953_0808B, 0xF954_051DC,
    0xF955_051CC, 0xF956_07A1C, 0xF957_07DBE, 0xF958_083F1, 0xF959_09675, 0xF95A_08B80,
    0xF95B_062CF, 0xF95C_06A02, 0xF95D_08AFE, 0xF95E_04E39, 0xF95F_05BE7, 0xF960_06012,
    0xF961_07387, 0xF962_07570, 0xF963_05317, 0xF964_078FB, 0xF965_04FBF, 0xF966_05FA9,
    0xF967_04E0D, 0xF968_06CCC, 0xF969_06578, 0xF96A_07D22, 0xF96B_053C3, 0xF96C_0585E,
    0xF96D_07701, 0xF96E_08449, 0xF96F_08AAA, 0xF970_06BBA, 0xF971_08FB0, 0xF972_06C88,
    0xF973_062FE, 0xF974_082E5, 0xF975_063A0, 0xF976_07565, 0xF977_04EAE, 0xF978_05169,
    0xF979_051C9, 0xF97A_06881, 0xF97B_07CE7, 0xF97C_0826F, 0xF97D_08AD2, 0xF97E_091CF,
    0xF97F_052F5, 0xF980_05442, 0xF981_05973, 0xF982_05EEC, 0xF983_065C5, 0xF984_06FFE,
    0xF985_0792A, 0xF986_095AD, 0xF987_09A6A, 0xF988_09E97, 0xF989_09ECE, 0xF98A_0529B,
    0xF98B_066C6, 0xF98C_06B77, 0xF98D_08F62, 0xF98E_05E74, 0xF98F_06190, 0xF990_06200,
    0xF991_0649A, 0xF992_06F23, 0xF993_07149, 0xF994_07489, 0xF995_079CA, 0xF996_07DF4,
    0xF997_0806F, 0xF998_08F26, 0xF999_084EE, 0xF99A_09023, 0xF99B_0934A, 0xF99C_05217,
    0xF99D_052A3, 0xF99E_054BD, 0xF99F_070C8, 0xF9A0_088C2, 0xF9A1_08AAA, 0xF9A2_05EC9,
    0xF9A3_05FF5, 0xF9A4_0637B, 0xF9A5_06BAE, 0xF9A6_07C3E, 0xF9A7_07375, 0xF9A8_04EE4,
    0xF9A9_056F9, 0xF9AA_05BE7, 0xF9AB_05DBA, 0xF9AC_0601C, 0xF9AD_073B2, 0xF9AE_07469,
    0xF9AF_07F9A, 0xF9B0_08046, 0xF9B1_09234, 0xF9B2_096F6, 0xF9B3_09748, 0xF9B4_09818,
    0xF9B5_04F8B, 0xF9B6_079AE, 0xF9B7_091B4, 0xF9B8_096B8, 0xF9B9_060E1, 0xF9BA_04E86,
    0xF9BB_050DA, 0xF9BC_05BEE, 0xF9BD_05C3F, 0xF9BE_06599, 0xF9BF_06A02, 0xF9C0_071CE,
    0xF9C1_07642, 0xF9C2_084FC, 0xF9C3_0907C, 0xF9C4_09F8D, 0xF9C5_06688, 0xF9C6_0962E,
    0xF9C7_05289, 0xF9C8_0677B, 0xF9C9_067F3, 0xF9CA_06D41, 0xF9CB_06E9C, 0xF9CC_07409,
    0xF9CD_07559, 0xF9CE_0786B, 0xF9CF_07D10, 0xF9D0_0985E, 0xF9D1_0516D, 0xF9D2_0622E,
    0xF9D3_09678, 0xF9D4_0502B, 0xF9D5_05D19, 0xF9D6_06DEA, 0xF9D7_08F2A, 0xF9D8_05F8B,
    0xF9D9_06144, 0xF9DA_06817, 0xF9DB_07387, 0xF9DC_09686, 0xF9DD_05229, 0xF9DE_0540F,
    0xF9DF_05C65, 0xF9E0_06613, 0xF9E1_0674E, 0xF9E2_068A8, 0xF9E3_06CE5, 0xF9E4_07406,
    0xF9E5_075E2, 0xF9E6_07F79, 0xF9E7_088CF, 0xF9E8_088E1, 0xF9E9_091CC, 0xF9EA_096E2,
    0xF9EB_0533F, 0xF9EC_06EBA, 0xF9ED_0541D, 0xF9EE_071D0, 0xF9EF_07498, 0xF9F0_085FA,
    0xF9F1_096A3, 0xF9F2_09C57, 0xF9F3_09E9F, 0xF9F4_06797, 0xF9F5_06DCB, 0xF9F6_081E8,
    0xF9F7_07ACB, 0xF9F8_07B20, 0xF9F9_07C92, 0xF9FA_072C0, 0xF9FB_07099, 0xF9FC_08B58,
    0xF9FD_04EC0, 0xF9FE_08336, 0xF9FF_0523A, 0xFA00_05207, 0xFA01_05EA6, 0xFA02_062D3,
    0xFA03_07CD6, 0xFA04_05B85, 0xFA05_06D1E, 0xFA06_066B4, 0xFA07_08F3B, 0xFA08_0884C,
    0xFA09_0964D, 0xFA0A_0898B, 0xFA0B_05ED3, 0xFA0C_05140, 0xFA0D_055C0, 0xFA10_0585A,
    0xFA12_06674, 0xFA15_051DE, 0xFA16_0732A, 0xFA17_076CA, 0xFA18_0793C, 0xFA19_0795E,
    0xFA1A_07965, 0xFA1B_0798F, 0xFA1C_09756, 0xFA1D_07CBE, 0xFA1E_07FBD, 0xFA20_08612,
    0xFA22_08AF8, 0xFA25_09038, 0xFA26_090FD, 0xFA2A_098EF, 0xFA2B_098FC, 0xFA2C_09928,
    0xFA2D_09DB4, 0xFA2E_090DE, 0xFA2F_096B7, 0xFA30_04FAE, 0xFA31_050E7, 0xFA32_0514D,
    0xFA33_052C9, 0xFA34_052E4, 0xFA35_05351, 0xFA36_0559D, 0xFA37_05606, 0xFA38_05668,
    0xFA39_05840, 0xFA3A_058A8, 0xFA3B_05C64, 0xFA3C_05C6E, 0xFA3D_06094, 0xFA3E_06168,
    0xFA3F_0618E, 0xFA40_061F2, 0xFA41_0654F, 0xFA42_065E2, 0xFA43_06691, 0xFA44_06885,
    0xFA45_06D77, 0xFA46_06E1A, 0xFA47_06F22, 0xFA48_0716E, 0xFA49_0722B, 0xFA4A_07422,
    0xFA4B_07891, 0xFA4C_0793E, 0xFA4D_07949, 0xFA4E_07948, 0xFA4F_07950, 0xFA50_07956,
    0xFA51_0795D, 0xFA52_0798D, 0xFA53_0798E, 0xFA54_07A40, 0xFA55_07A81, 0xFA56_07BC0,
    0xFA57_07DF4, 0xFA58_07E09, 0xFA59_07E41, 0xFA5A_07F72, 0xFA5B_08005, 0xFA5C_081ED,
    0xFA5D_08279, 0xFA5E_08279, 0xFA5F_08457, 0xFA60_08910, 0xFA61_08996, 0xFA62_08B01,
    0xFA63_08B39, 0xFA64_08CD3, 0xFA65_08D08, 0xFA66_08FB6, 0xFA67_09038, 0xFA68_096E3,
    0xFA69_097FF, 0xFA6A_0983B, 0xFA6B_06075, 0xFA6C_242EE, 0xFA6D_08218, 0xFA70_04E26,
    0xFA71_051B5, 0xFA72_05168, 0xFA73_04F80, 0xFA74_05145, 0xFA75_05180, 0xFA76_052C7,
    0xFA77_052FA, 0xFA78_0559D, 0xFA79_05555, 0xFA7A_05599, 0xFA7B_055E2, 0xFA7C_0585A,
    0xFA7D_058B3, 0xFA7E_05944, 0xFA7F_05954, 0xFA80_05A62, 0xFA81_05B28, 0xFA82_05ED2,
    0xFA83_05ED9, 0xFA84_05F69, 0xFA85_05FAD, 0xFA86_060D8, 0xFA87_0614E, 0xFA88_06108,
    0xFA89_0618E, 0xFA8A_06160, 0xFA8B_061F2, 0xFA8C_06234, 0xFA8D_063C4, 0xFA8E_0641C,
    0xFA8F_06452, 0xFA90_06556, 0xFA91_06674, 0xFA92_06717, 0xFA93_0671B, 0xFA94_06756,
    0xFA95_06B79, 0xFA96_06BBA, 0xFA97_06D41, 0xFA98_06EDB, 0xFA99_06ECB, 0xFA9A_06F22,
    0xFA9B_0701E, 0xFA9C_0716E, 0xFA9D_077A7, 0xFA9E_07235, 0xFA9F_072AF, 0xFAA0_0732A,
    0xFAA1_07471, 0xFAA2_07506, 0xFAA3_0753B, 0xFAA4_0761D, 0xFAA5_0761F, 0xFAA6_076CA,
    0xFAA7_076DB, 0xFAA8_076F4, 0xFAA9_0774A, 0xFAAA_07740, 0xFAAB_078CC, 0xFAAC_07AB1,
    0xFAAD_07BC0, 0xFAAE_07C7B, 0xFAAF_07D5B, 0xFAB0_07DF4, 0xFAB1_07F3E, 0xFAB2_08005,
    0xFAB3_08352, 0xFAB4_083EF, 0xFAB5_08779, 0xFAB6_08941, 0xFAB7_08986, 0xFAB8_08996,
    0xFAB9_08ABF, 0xFABA_08AF8, 0xFABB_08ACB, 0xFABC_08B01, 0xFABD_08AFE, 0xFABE_08AED,
    0xFABF_08B39, 0xFAC0_08B8A, 0xFAC1_08D08, 0xFAC2_08F38, 0xFAC3_09072, 0xFAC4_09199,
    0xFAC5_09276, 0xFAC6_0967C, 0xFAC7_096E3, 0xFAC8_09756, 0xFAC9_097DB, 0xFACA_097FF,
    0xFACB_0980B, 0xFACC_0983B, 0xFACD_09B12, 0xFACE_09F9C, 0xFACF_2284A, 0xFAD0_22844,
    0xFAD1_233D5, 0xFAD2_03B9D, 0xFAD3_04018, 0xFAD4_04039, 0xFAD5_25249, 0xFAD6_25CD0,
    0xFAD7_27ED3, 0xFAD8_09F43, 0xFAD9_09F8E, 0xFB1D_005D9_005B4, 0xFB1F_005F2_005B7,
    0xFB2A_005E9_005C1, 0xFB2B_005E9_005C2, 0xFB2C_0FB49_005C1, 0xFB2D_0FB49_005C2,
    0xFB2E_005D0_005B7, 0xFB2F_005D0_005B8, 0xFB30_005D0_005BC, 0xFB31_005D1_005BC,
    0xFB32_005D2_005BC, 0xFB33_005D3_005BC, 0xFB34_005D4_005BC, 0xFB35_005D5_005BC,
    0xFB36_005D6_005BC, 0xFB38_005D8_005BC, 0xFB39_005D9_005BC, 0xFB3A_005DA_005BC,
    0xFB3B_005DB_005BC, 0xFB3C_005DC_005BC, 0xFB3E_005DE_005BC, 0xFB40_005E0_005BC,
    0xFB41_005E1_005BC, 0xFB43_005E3_005BC, 0xFB44_005E4_005BC, 0xFB46_005E6_005BC,
    0xFB47_005E7_005BC, 0xFB48_005E8_005BC, 0xFB49_005E9_005BC, 0xFB4A_005EA_005BC,
    0xFB4B_005D5_005B9, 0xFB4C_005D1_005BF, 0xFB4D_005DB_005BF, 0xFB4E_005E4_005BF,
    0x1D15E_1D157_1D165, 0x1D15F_1D158_1D165, 0x1D160_1D15F_1D16E, 0x1D161_1D15F_1D16F,
    0x1D162_1D15F_1D170, 0x1D163_1D15F_1D171, 0x1D164_1D15F_1D172, 0x1D1BB_1D1B9_1D165,
    0x1D1BC_1D1BA_1D165, 0x1D1BD_1D1BB_1D16E, 0x1D1BE_1D1BC_1D16E, 0x1D1BF_1D1BB_1D16F,
    0x1D1C0_1D1BC_1D16F, 0x2F800_04E3D, 0x2F801_04E38, 0x2F802_04E41, 0x2F803_20122, 0x2F804_04F60,
    0x2F805_04FAE, 0x2F806_04FBB, 0x2F807_05002, 0x2F808_0507A, 0x2F809_05099, 0x2F80A_050E7,
    0x2F80B_050CF, 0x2F80C_0349E, 0x2F80D_2063A, 0x2F80E_0514D, 0x2F80F_05154, 0x2F810_05164,
    0x2F811_05177, 0x2F812_2051C, 0x2F813_034B9, 0x2F814_05167, 0x2F815_0518D, 0x2F816_2054B,
    0x2F817_05197, 0x2F818_051A4, 0x2F819_04ECC, 0x2F81A_051AC, 0x2F81B_051B5, 0x2F81C_291DF,
    0x2F81D_051F5, 0x2F81E_05203, 0x2F81F_034DF, 0x2F820_0523B, 0x2F821_05246, 0x2F822_05272,
    0x2F823_05277, 0x2F824_03515, 0x2F825_052C7, 0x2F826_052C9, 0x2F827_052E4, 0x2F828_052FA,
    0x2F829_05305, 0x2F82A_05306, 0x2F82B_05317, 0x2F82C_05349, 0x2F82D_05351, 0x2F82E_0535A,
    0x2F82F_05373, 0x2F830_0537D, 0x2F831_0537F, 0x2F832_0537F, 0x2F833_0537F, 0x2F834_20A2C,
    0x2F835_07070, 0x2F836_053CA, 0x2F837_053DF, 0x2F838_20B63, 0x2F839_053EB, 0x2F83A_053F1,
    0x2F83B_05406, 0x2F83C_0549E, 0x2F83D_05438, 0x2F83E_05448, 0x2F83F_05468, 0x2F840_054A2,
    0x2F841_054F6, 0x2F842_05510, 0x2F843_05553, 0x2F844_05563, 0x2F845_05584, 0x2F846_05584,
    0x2F847_05599, 0x2F848_055AB, 0x2F849_055B3, 0x2F84A_055C2, 0x2F84B_05716, 0x2F84C_05606,
    0x2F84D_05717, 0x2F84E_05651, 0x2F84F_05674, 0x2F850_05207, 0x2F851_058EE, 0x2F852_057CE,
    0x2F853_057F4, 0x2F854_0580D, 0x2F855_0578B, 0x2F856_05832, 0x2F857_05831, 0x2F858_058AC,
    0x2F859_214E4, 0x2F85A_058F2, 0x2F85B_058F7, 0x2F85C_05906, 0x2F85D_0591A, 0x2F85E_05922,
    0x2F85F_05962, 0x2F860_216A8, 0x2F861_216EA, 0x2F862_059EC, 0x2F863_05A1B, 0x2F864_05A27,
    0x2F865_059D8, 0x2F866_05A66, 0x2F867_036EE, 0x2F868_036FC, 0x2F869_05B08, 0x2F86A_05B3E,
    0x2F86B_05B3E, 0x2F86C_219C8, 0x2F86D_05BC3, 0x2F86E_05BD8, 0x2F86F_05BE7, 0x2F870_05BF3,
    0x2F871_21B18, 0x2F872_05BFF, 0x2F873_05C06, 0x2F874_05F53, 0x2F875_05C22, 0x2F876_03781,
    0x2F877_05C60, 0x2F878_05C6E, 0x2F879_05CC0, 0x2F87A_05C8D, 0x2F87B_21DE4, 0x2F87C_05D43,
    0x2F87D_21DE6, 0x2F87E_05D6E, 0x2F87F_05D6B, 0x2F880_05D7C, 0x2F881_05DE1, 0x2F882_05DE2,
    0x2F883_0382F, 0x2F884_05DFD, 0x2F885_05E28, 0x2F886_05E3D, 0x2F887_05E69, 0x2F888_03862,
    0x2F889_22183, 0x2F88A_0387C, 0x2F88B_05EB0, 0x2F88C_05EB3, 0x2F88D_05EB6, 0x2F88E_05ECA,
    0x2F88F_2A392, 0x2F890_05EFE, 0x2F891_22331, 0x2F892_22331, 0x2F893_08201, 0x2F894_05F22,
    0x2F895_05F22, 0x2F896_038C7, 0x2F897_232B8, 0x2F898_261DA, 0x2F899_05F62, 0x2F89A_05F6B,
    0x2F89B_038E3, 0x2F89C_05F9A, 0x2F89D_05FCD, 0x2F89E_05FD7, 0x2F89F_05FF9, 0x2F8A0_06081,
    0x2F8A1_0393A, 0x2F8A2_0391C, 0x2F8A3_06094, 0x2F8A4_226D4, 0x2F8A5_060C7, 0x2F8A6_06148,
    0x2F8A7_0614C, 0x2F8A8_0614E, 0x2F8A9_0614C, 0x2F8AA_0617A, 0x2F8AB_0618E, 0x2F8AC_061B2,
    0x2F8AD_061A4, 0x2F8AE_061AF, 0x2F8AF_061DE, 0x2F8B0_061F2, 0x2F8B1_061F6, 0x2F8B2_06210,
    0x2F8B3_0621B, 0x2F8B4_0625D, 0x2F8B5_062B1, 0x2F8B6_062D4, 0x2F8B7_06350, 0x2F8B8_22B0C,
    0x2F8B9_0633D, 0x2F8BA_062FC, 0x2F8BB_06368, 0x2F8BC_06383, 0x2F8BD_063E4, 0x2F8BE_22BF1,
    0x2F8BF_06422, 0x2F8C0_063C5, 0x2F8C1_063A9, 0x2F8C2_03A2E, 0x2F8C3_06469, 0x2F8C4_0647E,
    0x2F8C5_0649D, 0x2F8C6_06477, 0x2F8C7_03A6C, 0x2F8C8_0654F, 0x2F8C9_0656C, 0x2F8CA_2300A,
    0x2F8CB_065E3, 0x2F8CC_066F8, 0x2F8CD_06649, 0x2F8CE_03B19, 0x2F8CF_06691, 0x2F8D0_03B08,
    0x2F8D1_03AE4, 0x2F8D2_05192, 0x2F8D3_05195, 0x2F8D4_06700, 0x2F8D5_0669C, 0x2F8D6_080AD,
    0x2F8D7_043D9, 0x2F8D8_06717, 0x2F8D9_0671B, 0x2F8DA_06721, 0x2F8DB_0675E, 0x2F8DC_06753,
    0x2F8DD_233C3, 0x2F8DE_03B49, 0x2F8DF_067FA, 0x2F8E0_06785, 0x2F8E1_06852, 0x2F8E2_06885,
    0x2F8E3_2346D, 0x2F8E4_0688E, 0x2F8E5_0681F, 0x2F8E6_06914, 0x2F8E7_03B9D, 0x2F8E8_06942,
    0x2F8E9_069A3, 0x2F8EA_069EA, 0x2F8EB_06AA8, 0x2F8EC_236A3, 0x2F8ED_06ADB, 0x2F8EE_03C18,
    0x2F8EF_06B21, 0x2F8F0_238A7, 0x2F8F1_06B54, 0x2F8F2_03C4E, 0x2F8F3_06B72, 0x2F8F4_06B9F,
    0x2F8F5_06BBA, 0x2F8F6_06BBB, 0x2F8F7_23A8D, 0x2F8F8_21D0B, 0x2F8F9_23AFA, 0x2F8FA_06C4E,
    0x2F8FB_23CBC, 0x2F8FC_06CBF, 0x2F8FD_06CCD, 0x2F8FE_06C67, 0x2F8FF_06D16, 0x2F900_06D3E,
    0x2F901_06D77, 0x2F902_06D41, 0x2F903_06D69, 0x2F904_06D78, 0x2F905_06D85, 0x2F906_23D1E,
    0x2F907_06D34, 0x2F908_06E2F, 0x2F909_06E6E, 0x2F90A_03D33, 0x2F90B_06ECB, 0x2F90C_06EC7,
    0x2F90D_23ED1, 0x2F90E_06DF9, 0x2F90F_06F6E, 0x2F910_23F5E, 0x2F911_23F8E, 0x2F912_06FC6,
    0x2F913_07039, 0x2F914_0701E, 0x2F915_0701B, 0x2F916_03D96, 0x2F917_0704A, 0x2F918_0707D,
    0x2F919_07077, 0x2F91A_070AD, 0x2F91B_20525, 0x2F91C_07145, 0x2F91D_24263, 0x2F91E_0719C,
    0x2F91F_243AB, 0x2F920_07228, 0x2F921_07235, 0x2F922_07250, 0x2F923_24608, 0x2F924_07280,
    0x2F925_07295, 0x2F926_24735, 0x2F927_24814, 0x2F928_0737A, 0x2F929_0738B, 0x2F92A_03EAC,
    0x2F92B_073A5, 0x2F92C_03EB8, 0x2F92D_03EB8, 0x2F92E_07447, 0x2F92F_0745C, 0x2F930_07471,
    0x2F931_07485, 0x2F932_074CA, 0x2F933_03F1B, 0x2F934_07524, 0x2F935_24C36, 0x2F936_0753E,
    0x2F937_24C92, 0x2F938_07570, 0x2F939_2219F, 0x2F93A_07610, 0x2F93B_24FA1, 0x2F93C_24FB8,
    0x2F93D_25044, 0x2F93E_03FFC, 0x2F93F_04008, 0x2F940_076F4, 0x2F941_250F3, 0x2F942_250F2,
    0x2F943_25119, 0x2F944_25133, 0x2F945_0771E, 0x2F946_0771F, 0x2F947_0771F, 0x2F948_0774A,
    0x2F949_04039, 0x2F94A_0778B, 0x2F94B_04046, 0x2F94C_04096, 0x2F94D_2541D, 0x2F94E_0784E,
    0x2F94F_0788C, 0x2F950_078CC, 0x2F951_040E3, 0x2F952_25626, 0x2F953_07956, 0x2F954_2569A,
    0x2F955_256C5, 0x2F956_0798F, 0x2F957_079EB, 0x2F958_0412F, 0x2F959_07A40, 0x2F95A_07A4A,
    0x2F95B_07A4F, 0x2F95C_2597C, 0x2F95D_25AA7, 0x2F95E_25AA7, 0x2F95F_07AEE, 0x2F960_04202,
    0x2F961_25BAB, 0x2F962_07BC6, 0x2F963_07BC9, 0x2F964_04227, 0x2F965_25C80, 0x2F966_07CD2,
    0x2F967_042A0, 0x2F968_07CE8, 0x2F969_07CE3, 0x2F96A_07D00, 0x2F96B_25F86, 0x2F96C_07D63,
    0x2F96D_04301, 0x2F96E_07DC7, 0x2F96F_07E02, 0x2F970_07E45, 0x2F971_04334, 0x2F972_26228,
    0x2F973_26247, 0x2F974_04359, 0x2F975_262D9, 0x2F976_07F7A, 0x2F977_2633E, 0x2F978_07F95,
    0x2F979_07FFA, 0x2F97A_08005, 0x2F97B_264DA, 0x2F97C_26523, 0x2F97D_08060, 0x2F97E_265A8,
    0x2F97F_08070, 0x2F980_2335F, 0x2F981_043D5, 0x2F982_080B2, 0x2F983_08103, 0x2F984_0440B,
    0x2F985_0813E, 0x2F986_05AB5, 0x2F987_267A7, 0x2F988_267B5, 0x2F989_23393, 0x2F98A_2339C,
    0x2F98B_08201, 0x2F98C_08204, 0x2F98D_08F9E, 0x2F98E_0446B, 0x2F98F_08291, 0x2F990_0828B,
    0x2F991_0829D, 0x2F992_052B3, 0x2F993_082B1, 0x2F994_082B3, 0x2F995_082BD, 0x2F996_082E6,
    0x2F997_26B3C, 0x2F998_082E5, 0x2F999_0831D, 0x2F99A_08363, 0x2F99B_083AD, 0x2F99C_08323,
    0x2F99D_083BD, 0x2F99E_083E7, 0x2F99F_08457, 0x2F9A0_08353, 0x2F9A1_083CA, 0x2F9A2_083CC,
    0x2F9A3_083DC, 0x2F9A4_26C36, 0x2F9A5_26D6B, 0x2F9A6_26CD5, 0x2F9A7_0452B, 0x2F9A8_084F1,
    0x2F9A9_084F3, 0x2F9AA_08516, 0x2F9AB_273CA, 0x2F9AC_08564, 0x2F9AD_26F2C, 0x2F9AE_0455D,
    0x2F9AF_04561, 0x2F9B0_26FB1, 0x2F9B1_270D2, 0x2F9B2_0456B, 0x2F9B3_08650, 0x2F9B4_0865C,
    0x2F9B5_08667, 0x2F9B6_08669, 0x2F9B7_086A9, 0x2F9B8_08688, 0x2F9B9_0870E, 0x2F9BA_086E2,
    0x2F9BB_08779, 0x2F9BC_08728, 0x2F9BD_0876B, 0x2F9BE_08786, 0x2F9BF_045D7, 0x2F9C0_087E1,
    0x2F9C1_08801, 0x2F9C2_045F9, 0x2F9C3_08860, 0x2F9C4_08863, 0x2F9C5_27667, 0x2F9C6_088D7,
    0x2F9C7_088DE, 0x2F9C8_04635, 0x2F9C9_088FA, 0x2F9CA_034BB, 0x2F9CB_278AE, 0x2F9CC_27966,
    0x2F9CD_046BE, 0x2F9CE_046C7, 0x2F9CF_08AA0, 0x2F9D0_08AED, 0x2F9D1_08B8A, 0x2F9D2_08C55,
    0x2F9D3_27CA8, 0x2F9D4_08CAB, 0x2F9D5_08CC1, 0x2F9D6_08D1B, 0x2F9D7_08D77, 0x2F9D8_27F2F,
    0x2F9D9_20804, 0x2F9DA_08DCB, 0x2F9DB_08DBC, 0x2F9DC_08DF0, 0x2F9DD_208DE, 0x2F9DE_08ED4,
    0x2F9DF_08F38, 0x2F9E0_285D2, 0x2F9E1_285ED, 0x2F9E2_09094, 0x2F9E3_090F1, 0x2F9E4_09111,
    0x2F9E5_2872E, 0x2F9E6_0911B, 0x2F9E7_09238, 0x2F9E8_092D7, 0x2F9E9_092D8, 0x2F9EA_0927C,
    0x2F9EB_093F9, 0x2F9EC_09415, 0x2F9ED_28BFA, 0x2F9EE_0958B, 0x2F9EF_04995, 0x2F9F0_095B7,
    0x2F9F1_28D77, 0x2F9F2_049E6, 0x2F9F3_096C3, 0x2F9F4_05DB2, 0x2F9F5_09723, 0x2F9F6_29145,
    0x2F9F7_2921A, 0x2F9F8_04A6E, 0x2F9F9_04A76, 0x2F9FA_097E0, 0x2F9FB_2940A, 0x2F9FC_04AB2,
    0x2F9FD_29496, 0x2F9FE_0980B, 0x2F9FF_0980B, 0x2FA00_09829, 0x2FA01_295B6, 0x2FA02_098E2,
    0x2FA03_04B33, 0x2FA04_09929, 0x2FA05_099A7, 0x2FA06_099C2, 0x2FA07_099FE, 0x2FA08_04BCE,
    0x2FA09_29B30, 0x2FA0A_09B12, 0x2FA0B_09C40, 0x2FA0C_09CFD, 0x2FA0D_04CCE, 0x2FA0E_04CED,
    0x2FA0F_09D67, 0x2FA10_2A0CE, 0x2FA11_04CF8, 0x2FA12_2A105, 0x2FA13_2A20E, 0x2FA14_2A291,
    0x2FA15_09EBB, 0x2FA16_04D56, 0x2FA17_09EF9, 0x2FA18_09EFE, 0x2FA19_09F05, 0x2FA1A_09F0F,
    0x2FA1B_09F16, 0x2FA1C_09F3B, 0x2FA1D_2A600]

/-- The code point of an entry with one or two parts, and its parts. -/
def unpackParts (n : Nat) : Nat × List Nat :=
  match Lookup.unpack n with
  | (0, point, part) => (point, [part])
  | (point, first, second) => (point, [first, second])

def composites : List (Nat × Nat × Nat) := compositeEntries.map Lookup.unpack

/-- The primary composites beside their parts. -/
def compositeParts : Array (Nat × Nat × Nat) := composites.toArray

def oneWay : Array (Nat × List Nat) := (oneWayEntries.map unpackParts).toArray

/-- What a code point stands for, one step down. -/
def parts? (c : Nat) : Option (List Nat) :=
  if c < 0xC0 then none
  else
    match Lookup.beside? compositeParts c with
    | some (first, second) => some [first, second]
    | none => Lookup.beside? oneWay c

/-- One number for two parts, made of the low sixteen bits of each. -/
def pairKey (a b : Nat) : Nat := a % 65536 * 65536 + b % 65536

/-- The primary composites beside the numbers of their parts. -/
def compositesByParts : Array (Nat × Nat) :=
  (Lookup.ascending (composites.map fun (point, first, second) =>
    (pairKey first second, point))).toArray

/-- The second parts of primary composites, each beside a composite that it belongs to. -/
def seconds : Array (Nat × Nat) :=
  (Lookup.ascending (composites.map fun (point, _, second) => (second, point))).toArray

/-- The composite of two code points that is no Hangul syllable. Only the low sixteen bits of the
two parts are compared. -/
def composite? (a b : Nat) : Option Nat := Lookup.beside? compositesByParts (pairKey a b)

/-- Whether some composite has this code point as its second part. -/
def isSecond (b : Nat) : Bool := (Lookup.beside? seconds b).isSome

end DocPull.Decomposition
