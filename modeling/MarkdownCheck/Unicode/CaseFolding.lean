import MarkdownCheck.Unicode.Packed

/-!
# Case folding

- `foldCase`: full case folding of a text, character by character. ASCII letters are computed, every
  other character is looked up in `caseFoldings`.
-/

namespace MarkdownCheck.Unicode

/-- Full case foldings of Unicode 14.0 outside ASCII. -/
def caseFoldings : PackedTable := [
  (0x3D5, [
    0x3BC0000B5, 0xE00000C0, 0xE10000C1, 0xE20000C2, 0xE30000C3, 0xE40000C4, 0xE50000C5,
    0xE60000C6, 0xE70000C7, 0xE80000C8, 0xE90000C9, 0xEA0000CA, 0xEB0000CB, 0xEC0000CC, 0xED0000CD,
    0xEE0000CE, 0xEF0000CF, 0xF00000D0, 0xF10000D1, 0xF20000D2, 0xF30000D3, 0xF40000D4, 0xF50000D5,
    0xF60000D6, 0xF80000D8, 0xF90000D9, 0xFA0000DA, 0xFB0000DB, 0xFC0000DC, 0xFD0000DD, 0xFE0000DE,
    0x730000730000DF, 0x101000100, 0x103000102, 0x105000104, 0x107000106, 0x109000108, 0x10B00010A,
    0x10D00010C, 0x10F00010E, 0x111000110, 0x113000112, 0x115000114, 0x117000116, 0x119000118,
    0x11B00011A, 0x11D00011C, 0x11F00011E, 0x121000120, 0x123000122, 0x125000124, 0x127000126,
    0x129000128, 0x12B00012A, 0x12D00012C, 0x12F00012E, 0x307000069000130, 0x133000132,
    0x135000134, 0x137000136, 0x13A000139, 0x13C00013B, 0x13E00013D, 0x14000013F, 0x142000141,
    0x144000143, 0x146000145, 0x148000147, 0x6E0002BC000149, 0x14B00014A, 0x14D00014C, 0x14F00014E,
    0x151000150, 0x153000152, 0x155000154, 0x157000156, 0x159000158, 0x15B00015A, 0x15D00015C,
    0x15F00015E, 0x161000160, 0x163000162, 0x165000164, 0x167000166, 0x169000168, 0x16B00016A,
    0x16D00016C, 0x16F00016E, 0x171000170, 0x173000172, 0x175000174, 0x177000176, 0xFF000178,
    0x17A000179, 0x17C00017B, 0x17E00017D, 0x7300017F, 0x253000181, 0x183000182, 0x185000184,
    0x254000186, 0x188000187, 0x256000189, 0x25700018A, 0x18C00018B, 0x1DD00018E, 0x25900018F,
    0x25B000190, 0x192000191, 0x260000193, 0x263000194, 0x269000196, 0x268000197, 0x199000198,
    0x26F00019C, 0x27200019D, 0x27500019F, 0x1A10001A0, 0x1A30001A2, 0x1A50001A4, 0x2800001A6,
    0x1A80001A7, 0x2830001A9, 0x1AD0001AC, 0x2880001AE, 0x1B00001AF, 0x28A0001B1, 0x28B0001B2,
    0x1B40001B3, 0x1B60001B5, 0x2920001B7, 0x1B90001B8, 0x1BD0001BC, 0x1C60001C4, 0x1C60001C5,
    0x1C90001C7, 0x1C90001C8, 0x1CC0001CA, 0x1CC0001CB, 0x1CE0001CD, 0x1D00001CF, 0x1D20001D1,
    0x1D40001D3, 0x1D60001D5, 0x1D80001D7, 0x1DA0001D9, 0x1DC0001DB, 0x1DF0001DE, 0x1E10001E0,
    0x1E30001E2, 0x1E50001E4, 0x1E70001E6, 0x1E90001E8, 0x1EB0001EA, 0x1ED0001EC, 0x1EF0001EE,
    0x30C00006A0001F0, 0x1F30001F1, 0x1F30001F2, 0x1F50001F4, 0x1950001F6, 0x1BF0001F7,
    0x1F90001F8, 0x1FB0001FA, 0x1FD0001FC, 0x1FF0001FE, 0x201000200, 0x203000202, 0x205000204,
    0x207000206, 0x209000208, 0x20B00020A, 0x20D00020C, 0x20F00020E, 0x211000210, 0x213000212,
    0x215000214, 0x217000216, 0x219000218, 0x21B00021A, 0x21D00021C, 0x21F00021E, 0x19E000220,
    0x223000222, 0x225000224, 0x227000226, 0x229000228, 0x22B00022A, 0x22D00022C, 0x22F00022E,
    0x231000230, 0x233000232, 0x2C6500023A, 0x23C00023B, 0x19A00023D, 0x2C6600023E, 0x242000241,
    0x180000243, 0x289000244, 0x28C000245, 0x247000246, 0x249000248, 0x24B00024A, 0x24D00024C,
    0x24F00024E, 0x3B9000345, 0x371000370, 0x373000372, 0x377000376, 0x3F300037F, 0x3AC000386,
    0x3AD000388, 0x3AE000389, 0x3AF00038A, 0x3CC00038C, 0x3CD00038E, 0x3CE00038F,
    0x3010003080003B9000390, 0x3B1000391, 0x3B2000392, 0x3B3000393, 0x3B4000394, 0x3B5000395,
    0x3B6000396, 0x3B7000397, 0x3B8000398, 0x3B9000399, 0x3BA00039A, 0x3BB00039B, 0x3BC00039C,
    0x3BD00039D, 0x3BE00039E, 0x3BF00039F, 0x3C00003A0, 0x3C10003A1, 0x3C30003A3, 0x3C40003A4,
    0x3C50003A5, 0x3C60003A6, 0x3C70003A7, 0x3C80003A8, 0x3C90003A9, 0x3CA0003AA, 0x3CB0003AB,
    0x3010003080003C50003B0, 0x3C30003C2, 0x3D70003CF, 0x3B20003D0, 0x3B80003D1, 0x3C60003D5]),
  (0x10CD, [
    0x3C00003D6, 0x3D90003D8, 0x3DB0003DA, 0x3DD0003DC, 0x3DF0003DE, 0x3E10003E0, 0x3E30003E2,
    0x3E50003E4, 0x3E70003E6, 0x3E90003E8, 0x3EB0003EA, 0x3ED0003EC, 0x3EF0003EE, 0x3BA0003F0,
    0x3C10003F1, 0x3B80003F4, 0x3B50003F5, 0x3F80003F7, 0x3F20003F9, 0x3FB0003FA, 0x37B0003FD,
    0x37C0003FE, 0x37D0003FF, 0x450000400, 0x451000401, 0x452000402, 0x453000403, 0x454000404,
    0x455000405, 0x456000406, 0x457000407, 0x458000408, 0x459000409, 0x45A00040A, 0x45B00040B,
    0x45C00040C, 0x45D00040D, 0x45E00040E, 0x45F00040F, 0x430000410, 0x431000411, 0x432000412,
    0x433000413, 0x434000414, 0x435000415, 0x436000416, 0x437000417, 0x438000418, 0x439000419,
    0x43A00041A, 0x43B00041B, 0x43C00041C, 0x43D00041D, 0x43E00041E, 0x43F00041F, 0x440000420,
    0x441000421, 0x442000422, 0x443000423, 0x444000424, 0x445000425, 0x446000426, 0x447000427,
    0x448000428, 0x449000429, 0x44A00042A, 0x44B00042B, 0x44C00042C, 0x44D00042D, 0x44E00042E,
    0x44F00042F, 0x461000460, 0x463000462, 0x465000464, 0x467000466, 0x469000468, 0x46B00046A,
    0x46D00046C, 0x46F00046E, 0x471000470, 0x473000472, 0x475000474, 0x477000476, 0x479000478,
    0x47B00047A, 0x47D00047C, 0x47F00047E, 0x481000480, 0x48B00048A, 0x48D00048C, 0x48F00048E,
    0x491000490, 0x493000492, 0x495000494, 0x497000496, 0x499000498, 0x49B00049A, 0x49D00049C,
    0x49F00049E, 0x4A10004A0, 0x4A30004A2, 0x4A50004A4, 0x4A70004A6, 0x4A90004A8, 0x4AB0004AA,
    0x4AD0004AC, 0x4AF0004AE, 0x4B10004B0, 0x4B30004B2, 0x4B50004B4, 0x4B70004B6, 0x4B90004B8,
    0x4BB0004BA, 0x4BD0004BC, 0x4BF0004BE, 0x4CF0004C0, 0x4C20004C1, 0x4C40004C3, 0x4C60004C5,
    0x4C80004C7, 0x4CA0004C9, 0x4CC0004CB, 0x4CE0004CD, 0x4D10004D0, 0x4D30004D2, 0x4D50004D4,
    0x4D70004D6, 0x4D90004D8, 0x4DB0004DA, 0x4DD0004DC, 0x4DF0004DE, 0x4E10004E0, 0x4E30004E2,
    0x4E50004E4, 0x4E70004E6, 0x4E90004E8, 0x4EB0004EA, 0x4ED0004EC, 0x4EF0004EE, 0x4F10004F0,
    0x4F30004F2, 0x4F50004F4, 0x4F70004F6, 0x4F90004F8, 0x4FB0004FA, 0x4FD0004FC, 0x4FF0004FE,
    0x501000500, 0x503000502, 0x505000504, 0x507000506, 0x509000508, 0x50B00050A, 0x50D00050C,
    0x50F00050E, 0x511000510, 0x513000512, 0x515000514, 0x517000516, 0x519000518, 0x51B00051A,
    0x51D00051C, 0x51F00051E, 0x521000520, 0x523000522, 0x525000524, 0x527000526, 0x529000528,
    0x52B00052A, 0x52D00052C, 0x52F00052E, 0x561000531, 0x562000532, 0x563000533, 0x564000534,
    0x565000535, 0x566000536, 0x567000537, 0x568000538, 0x569000539, 0x56A00053A, 0x56B00053B,
    0x56C00053C, 0x56D00053D, 0x56E00053E, 0x56F00053F, 0x570000540, 0x571000541, 0x572000542,
    0x573000543, 0x574000544, 0x575000545, 0x576000546, 0x577000547, 0x578000548, 0x579000549,
    0x57A00054A, 0x57B00054B, 0x57C00054C, 0x57D00054D, 0x57E00054E, 0x57F00054F, 0x580000550,
    0x581000551, 0x582000552, 0x583000553, 0x584000554, 0x585000555, 0x586000556,
    0x582000565000587, 0x2D000010A0, 0x2D010010A1, 0x2D020010A2, 0x2D030010A3, 0x2D040010A4,
    0x2D050010A5, 0x2D060010A6, 0x2D070010A7, 0x2D080010A8, 0x2D090010A9, 0x2D0A0010AA,
    0x2D0B0010AB, 0x2D0C0010AC, 0x2D0D0010AD, 0x2D0E0010AE, 0x2D0F0010AF, 0x2D100010B0,
    0x2D110010B1, 0x2D120010B2, 0x2D130010B3, 0x2D140010B4, 0x2D150010B5, 0x2D160010B6,
    0x2D170010B7, 0x2D180010B8, 0x2D190010B9, 0x2D1A0010BA, 0x2D1B0010BB, 0x2D1C0010BC,
    0x2D1D0010BD, 0x2D1E0010BE, 0x2D1F0010BF, 0x2D200010C0, 0x2D210010C1, 0x2D220010C2,
    0x2D230010C3, 0x2D240010C4, 0x2D250010C5, 0x2D270010C7, 0x2D2D0010CD]),
  (0x1F86, [
    0x13F00013F8, 0x13F10013F9, 0x13F20013FA, 0x13F30013FB, 0x13F40013FC, 0x13F50013FD,
    0x432001C80, 0x434001C81, 0x43E001C82, 0x441001C83, 0x442001C84, 0x442001C85, 0x44A001C86,
    0x463001C87, 0xA64B001C88, 0x10D0001C90, 0x10D1001C91, 0x10D2001C92, 0x10D3001C93,
    0x10D4001C94, 0x10D5001C95, 0x10D6001C96, 0x10D7001C97, 0x10D8001C98, 0x10D9001C99,
    0x10DA001C9A, 0x10DB001C9B, 0x10DC001C9C, 0x10DD001C9D, 0x10DE001C9E, 0x10DF001C9F,
    0x10E0001CA0, 0x10E1001CA1, 0x10E2001CA2, 0x10E3001CA3, 0x10E4001CA4, 0x10E5001CA5,
    0x10E6001CA6, 0x10E7001CA7, 0x10E8001CA8, 0x10E9001CA9, 0x10EA001CAA, 0x10EB001CAB,
    0x10EC001CAC, 0x10ED001CAD, 0x10EE001CAE, 0x10EF001CAF, 0x10F0001CB0, 0x10F1001CB1,
    0x10F2001CB2, 0x10F3001CB3, 0x10F4001CB4, 0x10F5001CB5, 0x10F6001CB6, 0x10F7001CB7,
    0x10F8001CB8, 0x10F9001CB9, 0x10FA001CBA, 0x10FD001CBD, 0x10FE001CBE, 0x10FF001CBF,
    0x1E01001E00, 0x1E03001E02, 0x1E05001E04, 0x1E07001E06, 0x1E09001E08, 0x1E0B001E0A,
    0x1E0D001E0C, 0x1E0F001E0E, 0x1E11001E10, 0x1E13001E12, 0x1E15001E14, 0x1E17001E16,
    0x1E19001E18, 0x1E1B001E1A, 0x1E1D001E1C, 0x1E1F001E1E, 0x1E21001E20, 0x1E23001E22,
    0x1E25001E24, 0x1E27001E26, 0x1E29001E28, 0x1E2B001E2A, 0x1E2D001E2C, 0x1E2F001E2E,
    0x1E31001E30, 0x1E33001E32, 0x1E35001E34, 0x1E37001E36, 0x1E39001E38, 0x1E3B001E3A,
    0x1E3D001E3C, 0x1E3F001E3E, 0x1E41001E40, 0x1E43001E42, 0x1E45001E44, 0x1E47001E46,
    0x1E49001E48, 0x1E4B001E4A, 0x1E4D001E4C, 0x1E4F001E4E, 0x1E51001E50, 0x1E53001E52,
    0x1E55001E54, 0x1E57001E56, 0x1E59001E58, 0x1E5B001E5A, 0x1E5D001E5C, 0x1E5F001E5E,
    0x1E61001E60, 0x1E63001E62, 0x1E65001E64, 0x1E67001E66, 0x1E69001E68, 0x1E6B001E6A,
    0x1E6D001E6C, 0x1E6F001E6E, 0x1E71001E70, 0x1E73001E72, 0x1E75001E74, 0x1E77001E76,
    0x1E79001E78, 0x1E7B001E7A, 0x1E7D001E7C, 0x1E7F001E7E, 0x1E81001E80, 0x1E83001E82,
    0x1E85001E84, 0x1E87001E86, 0x1E89001E88, 0x1E8B001E8A, 0x1E8D001E8C, 0x1E8F001E8E,
    0x1E91001E90, 0x1E93001E92, 0x1E95001E94, 0x331000068001E96, 0x308000074001E97,
    0x30A000077001E98, 0x30A000079001E99, 0x2BE000061001E9A, 0x1E61001E9B, 0x73000073001E9E,
    0x1EA1001EA0, 0x1EA3001EA2, 0x1EA5001EA4, 0x1EA7001EA6, 0x1EA9001EA8, 0x1EAB001EAA,
    0x1EAD001EAC, 0x1EAF001EAE, 0x1EB1001EB0, 0x1EB3001EB2, 0x1EB5001EB4, 0x1EB7001EB6,
    0x1EB9001EB8, 0x1EBB001EBA, 0x1EBD001EBC, 0x1EBF001EBE, 0x1EC1001EC0, 0x1EC3001EC2,
    0x1EC5001EC4, 0x1EC7001EC6, 0x1EC9001EC8, 0x1ECB001ECA, 0x1ECD001ECC, 0x1ECF001ECE,
    0x1ED1001ED0, 0x1ED3001ED2, 0x1ED5001ED4, 0x1ED7001ED6, 0x1ED9001ED8, 0x1EDB001EDA,
    0x1EDD001EDC, 0x1EDF001EDE, 0x1EE1001EE0, 0x1EE3001EE2, 0x1EE5001EE4, 0x1EE7001EE6,
    0x1EE9001EE8, 0x1EEB001EEA, 0x1EED001EEC, 0x1EEF001EEE, 0x1EF1001EF0, 0x1EF3001EF2,
    0x1EF5001EF4, 0x1EF7001EF6, 0x1EF9001EF8, 0x1EFB001EFA, 0x1EFD001EFC, 0x1EFF001EFE,
    0x1F00001F08, 0x1F01001F09, 0x1F02001F0A, 0x1F03001F0B, 0x1F04001F0C, 0x1F05001F0D,
    0x1F06001F0E, 0x1F07001F0F, 0x1F10001F18, 0x1F11001F19, 0x1F12001F1A, 0x1F13001F1B,
    0x1F14001F1C, 0x1F15001F1D, 0x1F20001F28, 0x1F21001F29, 0x1F22001F2A, 0x1F23001F2B,
    0x1F24001F2C, 0x1F25001F2D, 0x1F26001F2E, 0x1F27001F2F, 0x1F30001F38, 0x1F31001F39,
    0x1F32001F3A, 0x1F33001F3B, 0x1F34001F3C, 0x1F35001F3D, 0x1F36001F3E, 0x1F37001F3F,
    0x1F40001F48, 0x1F41001F49, 0x1F42001F4A, 0x1F43001F4B, 0x1F44001F4C, 0x1F45001F4D,
    0x3130003C5001F50, 0x3000003130003C5001F52, 0x3010003130003C5001F54, 0x3420003130003C5001F56,
    0x1F51001F59, 0x1F53001F5B, 0x1F55001F5D, 0x1F57001F5F, 0x1F60001F68, 0x1F61001F69,
    0x1F62001F6A, 0x1F63001F6B, 0x1F64001F6C, 0x1F65001F6D, 0x1F66001F6E, 0x1F67001F6F,
    0x3B9001F00001F80, 0x3B9001F01001F81, 0x3B9001F02001F82, 0x3B9001F03001F83, 0x3B9001F04001F84,
    0x3B9001F05001F85, 0x3B9001F06001F86]),
  (0x2CE2, [
    0x3B9001F07001F87, 0x3B9001F00001F88, 0x3B9001F01001F89, 0x3B9001F02001F8A, 0x3B9001F03001F8B,
    0x3B9001F04001F8C, 0x3B9001F05001F8D, 0x3B9001F06001F8E, 0x3B9001F07001F8F, 0x3B9001F20001F90,
    0x3B9001F21001F91, 0x3B9001F22001F92, 0x3B9001F23001F93, 0x3B9001F24001F94, 0x3B9001F25001F95,
    0x3B9001F26001F96, 0x3B9001F27001F97, 0x3B9001F20001F98, 0x3B9001F21001F99, 0x3B9001F22001F9A,
    0x3B9001F23001F9B, 0x3B9001F24001F9C, 0x3B9001F25001F9D, 0x3B9001F26001F9E, 0x3B9001F27001F9F,
    0x3B9001F60001FA0, 0x3B9001F61001FA1, 0x3B9001F62001FA2, 0x3B9001F63001FA3, 0x3B9001F64001FA4,
    0x3B9001F65001FA5, 0x3B9001F66001FA6, 0x3B9001F67001FA7, 0x3B9001F60001FA8, 0x3B9001F61001FA9,
    0x3B9001F62001FAA, 0x3B9001F63001FAB, 0x3B9001F64001FAC, 0x3B9001F65001FAD, 0x3B9001F66001FAE,
    0x3B9001F67001FAF, 0x3B9001F70001FB2, 0x3B90003B1001FB3, 0x3B90003AC001FB4, 0x3420003B1001FB6,
    0x3B90003420003B1001FB7, 0x1FB0001FB8, 0x1FB1001FB9, 0x1F70001FBA, 0x1F71001FBB,
    0x3B90003B1001FBC, 0x3B9001FBE, 0x3B9001F74001FC2, 0x3B90003B7001FC3, 0x3B90003AE001FC4,
    0x3420003B7001FC6, 0x3B90003420003B7001FC7, 0x1F72001FC8, 0x1F73001FC9, 0x1F74001FCA,
    0x1F75001FCB, 0x3B90003B7001FCC, 0x3000003080003B9001FD2, 0x3010003080003B9001FD3,
    0x3420003B9001FD6, 0x3420003080003B9001FD7, 0x1FD0001FD8, 0x1FD1001FD9, 0x1F76001FDA,
    0x1F77001FDB, 0x3000003080003C5001FE2, 0x3010003080003C5001FE3, 0x3130003C1001FE4,
    0x3420003C5001FE6, 0x3420003080003C5001FE7, 0x1FE0001FE8, 0x1FE1001FE9, 0x1F7A001FEA,
    0x1F7B001FEB, 0x1FE5001FEC, 0x3B9001F7C001FF2, 0x3B90003C9001FF3, 0x3B90003CE001FF4,
    0x3420003C9001FF6, 0x3B90003420003C9001FF7, 0x1F78001FF8, 0x1F79001FF9, 0x1F7C001FFA,
    0x1F7D001FFB, 0x3B90003C9001FFC, 0x3C9002126, 0x6B00212A, 0xE500212B, 0x214E002132,
    0x2170002160, 0x2171002161, 0x2172002162, 0x2173002163, 0x2174002164, 0x2175002165,
    0x2176002166, 0x2177002167, 0x2178002168, 0x2179002169, 0x217A00216A, 0x217B00216B,
    0x217C00216C, 0x217D00216D, 0x217E00216E, 0x217F00216F, 0x2184002183, 0x24D00024B6,
    0x24D10024B7, 0x24D20024B8, 0x24D30024B9, 0x24D40024BA, 0x24D50024BB, 0x24D60024BC,
    0x24D70024BD, 0x24D80024BE, 0x24D90024BF, 0x24DA0024C0, 0x24DB0024C1, 0x24DC0024C2,
    0x24DD0024C3, 0x24DE0024C4, 0x24DF0024C5, 0x24E00024C6, 0x24E10024C7, 0x24E20024C8,
    0x24E30024C9, 0x24E40024CA, 0x24E50024CB, 0x24E60024CC, 0x24E70024CD, 0x24E80024CE,
    0x24E90024CF, 0x2C30002C00, 0x2C31002C01, 0x2C32002C02, 0x2C33002C03, 0x2C34002C04,
    0x2C35002C05, 0x2C36002C06, 0x2C37002C07, 0x2C38002C08, 0x2C39002C09, 0x2C3A002C0A,
    0x2C3B002C0B, 0x2C3C002C0C, 0x2C3D002C0D, 0x2C3E002C0E, 0x2C3F002C0F, 0x2C40002C10,
    0x2C41002C11, 0x2C42002C12, 0x2C43002C13, 0x2C44002C14, 0x2C45002C15, 0x2C46002C16,
    0x2C47002C17, 0x2C48002C18, 0x2C49002C19, 0x2C4A002C1A, 0x2C4B002C1B, 0x2C4C002C1C,
    0x2C4D002C1D, 0x2C4E002C1E, 0x2C4F002C1F, 0x2C50002C20, 0x2C51002C21, 0x2C52002C22,
    0x2C53002C23, 0x2C54002C24, 0x2C55002C25, 0x2C56002C26, 0x2C57002C27, 0x2C58002C28,
    0x2C59002C29, 0x2C5A002C2A, 0x2C5B002C2B, 0x2C5C002C2C, 0x2C5D002C2D, 0x2C5E002C2E,
    0x2C5F002C2F, 0x2C61002C60, 0x26B002C62, 0x1D7D002C63, 0x27D002C64, 0x2C68002C67, 0x2C6A002C69,
    0x2C6C002C6B, 0x251002C6D, 0x271002C6E, 0x250002C6F, 0x252002C70, 0x2C73002C72, 0x2C76002C75,
    0x23F002C7E, 0x240002C7F, 0x2C81002C80, 0x2C83002C82, 0x2C85002C84, 0x2C87002C86, 0x2C89002C88,
    0x2C8B002C8A, 0x2C8D002C8C, 0x2C8F002C8E, 0x2C91002C90, 0x2C93002C92, 0x2C95002C94,
    0x2C97002C96, 0x2C99002C98, 0x2C9B002C9A, 0x2C9D002C9C, 0x2C9F002C9E, 0x2CA1002CA0,
    0x2CA3002CA2, 0x2CA5002CA4, 0x2CA7002CA6, 0x2CA9002CA8, 0x2CAB002CAA, 0x2CAD002CAC,
    0x2CAF002CAE, 0x2CB1002CB0, 0x2CB3002CB2, 0x2CB5002CB4, 0x2CB7002CB6, 0x2CB9002CB8,
    0x2CBB002CBA, 0x2CBD002CBC, 0x2CBF002CBE, 0x2CC1002CC0, 0x2CC3002CC2, 0x2CC5002CC4,
    0x2CC7002CC6, 0x2CC9002CC8, 0x2CCB002CCA, 0x2CCD002CCC, 0x2CCF002CCE, 0x2CD1002CD0,
    0x2CD3002CD2, 0x2CD5002CD4, 0x2CD7002CD6, 0x2CD9002CD8, 0x2CDB002CDA, 0x2CDD002CDC,
    0x2CDF002CDE, 0x2CE1002CE0, 0x2CE3002CE2]),
  (0x10405, [
    0x2CEC002CEB, 0x2CEE002CED, 0x2CF3002CF2, 0xA64100A640, 0xA64300A642, 0xA64500A644,
    0xA64700A646, 0xA64900A648, 0xA64B00A64A, 0xA64D00A64C, 0xA64F00A64E, 0xA65100A650,
    0xA65300A652, 0xA65500A654, 0xA65700A656, 0xA65900A658, 0xA65B00A65A, 0xA65D00A65C,
    0xA65F00A65E, 0xA66100A660, 0xA66300A662, 0xA66500A664, 0xA66700A666, 0xA66900A668,
    0xA66B00A66A, 0xA66D00A66C, 0xA68100A680, 0xA68300A682, 0xA68500A684, 0xA68700A686,
    0xA68900A688, 0xA68B00A68A, 0xA68D00A68C, 0xA68F00A68E, 0xA69100A690, 0xA69300A692,
    0xA69500A694, 0xA69700A696, 0xA69900A698, 0xA69B00A69A, 0xA72300A722, 0xA72500A724,
    0xA72700A726, 0xA72900A728, 0xA72B00A72A, 0xA72D00A72C, 0xA72F00A72E, 0xA73300A732,
    0xA73500A734, 0xA73700A736, 0xA73900A738, 0xA73B00A73A, 0xA73D00A73C, 0xA73F00A73E,
    0xA74100A740, 0xA74300A742, 0xA74500A744, 0xA74700A746, 0xA74900A748, 0xA74B00A74A,
    0xA74D00A74C, 0xA74F00A74E, 0xA75100A750, 0xA75300A752, 0xA75500A754, 0xA75700A756,
    0xA75900A758, 0xA75B00A75A, 0xA75D00A75C, 0xA75F00A75E, 0xA76100A760, 0xA76300A762,
    0xA76500A764, 0xA76700A766, 0xA76900A768, 0xA76B00A76A, 0xA76D00A76C, 0xA76F00A76E,
    0xA77A00A779, 0xA77C00A77B, 0x1D7900A77D, 0xA77F00A77E, 0xA78100A780, 0xA78300A782,
    0xA78500A784, 0xA78700A786, 0xA78C00A78B, 0x26500A78D, 0xA79100A790, 0xA79300A792,
    0xA79700A796, 0xA79900A798, 0xA79B00A79A, 0xA79D00A79C, 0xA79F00A79E, 0xA7A100A7A0,
    0xA7A300A7A2, 0xA7A500A7A4, 0xA7A700A7A6, 0xA7A900A7A8, 0x26600A7AA, 0x25C00A7AB, 0x26100A7AC,
    0x26C00A7AD, 0x26A00A7AE, 0x29E00A7B0, 0x28700A7B1, 0x29D00A7B2, 0xAB5300A7B3, 0xA7B500A7B4,
    0xA7B700A7B6, 0xA7B900A7B8, 0xA7BB00A7BA, 0xA7BD00A7BC, 0xA7BF00A7BE, 0xA7C100A7C0,
    0xA7C300A7C2, 0xA79400A7C4, 0x28200A7C5, 0x1D8E00A7C6, 0xA7C800A7C7, 0xA7CA00A7C9,
    0xA7D100A7D0, 0xA7D700A7D6, 0xA7D900A7D8, 0xA7F600A7F5, 0x13A000AB70, 0x13A100AB71,
    0x13A200AB72, 0x13A300AB73, 0x13A400AB74, 0x13A500AB75, 0x13A600AB76, 0x13A700AB77,
    0x13A800AB78, 0x13A900AB79, 0x13AA00AB7A, 0x13AB00AB7B, 0x13AC00AB7C, 0x13AD00AB7D,
    0x13AE00AB7E, 0x13AF00AB7F, 0x13B000AB80, 0x13B100AB81, 0x13B200AB82, 0x13B300AB83,
    0x13B400AB84, 0x13B500AB85, 0x13B600AB86, 0x13B700AB87, 0x13B800AB88, 0x13B900AB89,
    0x13BA00AB8A, 0x13BB00AB8B, 0x13BC00AB8C, 0x13BD00AB8D, 0x13BE00AB8E, 0x13BF00AB8F,
    0x13C000AB90, 0x13C100AB91, 0x13C200AB92, 0x13C300AB93, 0x13C400AB94, 0x13C500AB95,
    0x13C600AB96, 0x13C700AB97, 0x13C800AB98, 0x13C900AB99, 0x13CA00AB9A, 0x13CB00AB9B,
    0x13CC00AB9C, 0x13CD00AB9D, 0x13CE00AB9E, 0x13CF00AB9F, 0x13D000ABA0, 0x13D100ABA1,
    0x13D200ABA2, 0x13D300ABA3, 0x13D400ABA4, 0x13D500ABA5, 0x13D600ABA6, 0x13D700ABA7,
    0x13D800ABA8, 0x13D900ABA9, 0x13DA00ABAA, 0x13DB00ABAB, 0x13DC00ABAC, 0x13DD00ABAD,
    0x13DE00ABAE, 0x13DF00ABAF, 0x13E000ABB0, 0x13E100ABB1, 0x13E200ABB2, 0x13E300ABB3,
    0x13E400ABB4, 0x13E500ABB5, 0x13E600ABB6, 0x13E700ABB7, 0x13E800ABB8, 0x13E900ABB9,
    0x13EA00ABBA, 0x13EB00ABBB, 0x13EC00ABBC, 0x13ED00ABBD, 0x13EE00ABBE, 0x13EF00ABBF,
    0x6600006600FB00, 0x6900006600FB01, 0x6C00006600FB02, 0x6900006600006600FB03,
    0x6C00006600006600FB04, 0x7400007300FB05, 0x7400007300FB06, 0x57600057400FB13,
    0x56500057400FB14, 0x56B00057400FB15, 0x57600057E00FB16, 0x56D00057400FB17, 0xFF4100FF21,
    0xFF4200FF22, 0xFF4300FF23, 0xFF4400FF24, 0xFF4500FF25, 0xFF4600FF26, 0xFF4700FF27,
    0xFF4800FF28, 0xFF4900FF29, 0xFF4A00FF2A, 0xFF4B00FF2B, 0xFF4C00FF2C, 0xFF4D00FF2D,
    0xFF4E00FF2E, 0xFF4F00FF2F, 0xFF5000FF30, 0xFF5100FF31, 0xFF5200FF32, 0xFF5300FF33,
    0xFF5400FF34, 0xFF5500FF35, 0xFF5600FF36, 0xFF5700FF37, 0xFF5800FF38, 0xFF5900FF39,
    0xFF5A00FF3A, 0x10428010400, 0x10429010401, 0x1042A010402, 0x1042B010403, 0x1042C010404,
    0x1042D010405]),
  (0x1E91D, [
    0x1042E010406, 0x1042F010407, 0x10430010408, 0x10431010409, 0x1043201040A, 0x1043301040B,
    0x1043401040C, 0x1043501040D, 0x1043601040E, 0x1043701040F, 0x10438010410, 0x10439010411,
    0x1043A010412, 0x1043B010413, 0x1043C010414, 0x1043D010415, 0x1043E010416, 0x1043F010417,
    0x10440010418, 0x10441010419, 0x1044201041A, 0x1044301041B, 0x1044401041C, 0x1044501041D,
    0x1044601041E, 0x1044701041F, 0x10448010420, 0x10449010421, 0x1044A010422, 0x1044B010423,
    0x1044C010424, 0x1044D010425, 0x1044E010426, 0x1044F010427, 0x104D80104B0, 0x104D90104B1,
    0x104DA0104B2, 0x104DB0104B3, 0x104DC0104B4, 0x104DD0104B5, 0x104DE0104B6, 0x104DF0104B7,
    0x104E00104B8, 0x104E10104B9, 0x104E20104BA, 0x104E30104BB, 0x104E40104BC, 0x104E50104BD,
    0x104E60104BE, 0x104E70104BF, 0x104E80104C0, 0x104E90104C1, 0x104EA0104C2, 0x104EB0104C3,
    0x104EC0104C4, 0x104ED0104C5, 0x104EE0104C6, 0x104EF0104C7, 0x104F00104C8, 0x104F10104C9,
    0x104F20104CA, 0x104F30104CB, 0x104F40104CC, 0x104F50104CD, 0x104F60104CE, 0x104F70104CF,
    0x104F80104D0, 0x104F90104D1, 0x104FA0104D2, 0x104FB0104D3, 0x10597010570, 0x10598010571,
    0x10599010572, 0x1059A010573, 0x1059B010574, 0x1059C010575, 0x1059D010576, 0x1059E010577,
    0x1059F010578, 0x105A0010579, 0x105A101057A, 0x105A301057C, 0x105A401057D, 0x105A501057E,
    0x105A601057F, 0x105A7010580, 0x105A8010581, 0x105A9010582, 0x105AA010583, 0x105AB010584,
    0x105AC010585, 0x105AD010586, 0x105AE010587, 0x105AF010588, 0x105B0010589, 0x105B101058A,
    0x105B301058C, 0x105B401058D, 0x105B501058E, 0x105B601058F, 0x105B7010590, 0x105B8010591,
    0x105B9010592, 0x105BB010594, 0x105BC010595, 0x10CC0010C80, 0x10CC1010C81, 0x10CC2010C82,
    0x10CC3010C83, 0x10CC4010C84, 0x10CC5010C85, 0x10CC6010C86, 0x10CC7010C87, 0x10CC8010C88,
    0x10CC9010C89, 0x10CCA010C8A, 0x10CCB010C8B, 0x10CCC010C8C, 0x10CCD010C8D, 0x10CCE010C8E,
    0x10CCF010C8F, 0x10CD0010C90, 0x10CD1010C91, 0x10CD2010C92, 0x10CD3010C93, 0x10CD4010C94,
    0x10CD5010C95, 0x10CD6010C96, 0x10CD7010C97, 0x10CD8010C98, 0x10CD9010C99, 0x10CDA010C9A,
    0x10CDB010C9B, 0x10CDC010C9C, 0x10CDD010C9D, 0x10CDE010C9E, 0x10CDF010C9F, 0x10CE0010CA0,
    0x10CE1010CA1, 0x10CE2010CA2, 0x10CE3010CA3, 0x10CE4010CA4, 0x10CE5010CA5, 0x10CE6010CA6,
    0x10CE7010CA7, 0x10CE8010CA8, 0x10CE9010CA9, 0x10CEA010CAA, 0x10CEB010CAB, 0x10CEC010CAC,
    0x10CED010CAD, 0x10CEE010CAE, 0x10CEF010CAF, 0x10CF0010CB0, 0x10CF1010CB1, 0x10CF2010CB2,
    0x118C00118A0, 0x118C10118A1, 0x118C20118A2, 0x118C30118A3, 0x118C40118A4, 0x118C50118A5,
    0x118C60118A6, 0x118C70118A7, 0x118C80118A8, 0x118C90118A9, 0x118CA0118AA, 0x118CB0118AB,
    0x118CC0118AC, 0x118CD0118AD, 0x118CE0118AE, 0x118CF0118AF, 0x118D00118B0, 0x118D10118B1,
    0x118D20118B2, 0x118D30118B3, 0x118D40118B4, 0x118D50118B5, 0x118D60118B6, 0x118D70118B7,
    0x118D80118B8, 0x118D90118B9, 0x118DA0118BA, 0x118DB0118BB, 0x118DC0118BC, 0x118DD0118BD,
    0x118DE0118BE, 0x118DF0118BF, 0x16E60016E40, 0x16E61016E41, 0x16E62016E42, 0x16E63016E43,
    0x16E64016E44, 0x16E65016E45, 0x16E66016E46, 0x16E67016E47, 0x16E68016E48, 0x16E69016E49,
    0x16E6A016E4A, 0x16E6B016E4B, 0x16E6C016E4C, 0x16E6D016E4D, 0x16E6E016E4E, 0x16E6F016E4F,
    0x16E70016E50, 0x16E71016E51, 0x16E72016E52, 0x16E73016E53, 0x16E74016E54, 0x16E75016E55,
    0x16E76016E56, 0x16E77016E57, 0x16E78016E58, 0x16E79016E59, 0x16E7A016E5A, 0x16E7B016E5B,
    0x16E7C016E5C, 0x16E7D016E5D, 0x16E7E016E5E, 0x16E7F016E5F, 0x1E92201E900, 0x1E92301E901,
    0x1E92401E902, 0x1E92501E903, 0x1E92601E904, 0x1E92701E905, 0x1E92801E906, 0x1E92901E907,
    0x1E92A01E908, 0x1E92B01E909, 0x1E92C01E90A, 0x1E92D01E90B, 0x1E92E01E90C, 0x1E92F01E90D,
    0x1E93001E90E, 0x1E93101E90F, 0x1E93201E910, 0x1E93301E911, 0x1E93401E912, 0x1E93501E913,
    0x1E93601E914, 0x1E93701E915, 0x1E93801E916, 0x1E93901E917, 0x1E93A01E918, 0x1E93B01E919,
    0x1E93C01E91A, 0x1E93D01E91B, 0x1E93E01E91C, 0x1E93F01E91D]),
  (0x1E921, [
    0x1E94001E91E, 0x1E94101E91F, 0x1E94201E920, 0x1E94301E921])]

/-- The full case folding of one character. -/
def foldChar (c : Char) : List Char :=
  if c.toNat < 0x80 then [c.toLower]
  else (caseFoldings.find? c).getD [c]

/-- The full case folding of a text. -/
def foldCase (text : List Char) : List Char :=
  text.flatMap foldChar

end MarkdownCheck.Unicode
