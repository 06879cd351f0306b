import MarkdownCheck.Unicode.Packed

/-!
# Canonical compositions

- `compose`: the character that two characters compose to, if there is one. Hangul syllables are
  computed, every other pair is looked up in `compositions`.
-/

namespace MarkdownCheck.Unicode

/-- Canonical composition pairs of Unicode 14.0: each entry packs a first character, a second
character and the character they compose to. -/
def compositions : PackedTable := [
  (0x61, [
    0x226E00033800003C, 0x226000033800003D, 0x226F00033800003E, 0xC0000300000041, 0xC1000301000041,
    0xC2000302000041, 0xC3000303000041, 0x100000304000041, 0x102000306000041, 0x226000307000041,
    0xC4000308000041, 0x1EA2000309000041, 0xC500030A000041, 0x1CD00030C000041, 0x20000030F000041,
    0x202000311000041, 0x1EA0000323000041, 0x1E00000325000041, 0x104000328000041,
    0x1E02000307000042, 0x1E04000323000042, 0x1E06000331000042, 0x106000301000043,
    0x108000302000043, 0x10A000307000043, 0x10C00030C000043, 0xC7000327000043, 0x1E0A000307000044,
    0x10E00030C000044, 0x1E0C000323000044, 0x1E10000327000044, 0x1E1200032D000044,
    0x1E0E000331000044, 0xC8000300000045, 0xC9000301000045, 0xCA000302000045, 0x1EBC000303000045,
    0x112000304000045, 0x114000306000045, 0x116000307000045, 0xCB000308000045, 0x1EBA000309000045,
    0x11A00030C000045, 0x20400030F000045, 0x206000311000045, 0x1EB8000323000045, 0x228000327000045,
    0x118000328000045, 0x1E1800032D000045, 0x1E1A000330000045, 0x1E1E000307000046,
    0x1F4000301000047, 0x11C000302000047, 0x1E20000304000047, 0x11E000306000047, 0x120000307000047,
    0x1E600030C000047, 0x122000327000047, 0x124000302000048, 0x1E22000307000048,
    0x1E26000308000048, 0x21E00030C000048, 0x1E24000323000048, 0x1E28000327000048,
    0x1E2A00032E000048, 0xCC000300000049, 0xCD000301000049, 0xCE000302000049, 0x128000303000049,
    0x12A000304000049, 0x12C000306000049, 0x130000307000049, 0xCF000308000049, 0x1EC8000309000049,
    0x1CF00030C000049, 0x20800030F000049, 0x20A000311000049, 0x1ECA000323000049, 0x12E000328000049,
    0x1E2C000330000049, 0x13400030200004A, 0x1E3000030100004B, 0x1E800030C00004B,
    0x1E3200032300004B, 0x13600032700004B, 0x1E3400033100004B, 0x13900030100004C,
    0x13D00030C00004C, 0x1E3600032300004C, 0x13B00032700004C, 0x1E3C00032D00004C,
    0x1E3A00033100004C, 0x1E3E00030100004D, 0x1E4000030700004D, 0x1E4200032300004D,
    0x1F800030000004E, 0x14300030100004E, 0xD100030300004E, 0x1E4400030700004E, 0x14700030C00004E,
    0x1E4600032300004E, 0x14500032700004E, 0x1E4A00032D00004E, 0x1E4800033100004E,
    0xD200030000004F, 0xD300030100004F, 0xD400030200004F, 0xD500030300004F, 0x14C00030400004F,
    0x14E00030600004F, 0x22E00030700004F, 0xD600030800004F, 0x1ECE00030900004F, 0x15000030B00004F,
    0x1D100030C00004F, 0x20C00030F00004F, 0x20E00031100004F, 0x1A000031B00004F, 0x1ECC00032300004F,
    0x1EA00032800004F, 0x1E54000301000050, 0x1E56000307000050, 0x154000301000052,
    0x1E58000307000052, 0x15800030C000052, 0x21000030F000052, 0x212000311000052,
    0x1E5A000323000052, 0x156000327000052, 0x1E5E000331000052, 0x15A000301000053,
    0x15C000302000053, 0x1E60000307000053, 0x16000030C000053, 0x1E62000323000053,
    0x218000326000053, 0x15E000327000053, 0x1E6A000307000054, 0x16400030C000054,
    0x1E6C000323000054, 0x21A000326000054, 0x162000327000054, 0x1E7000032D000054,
    0x1E6E000331000054, 0xD9000300000055, 0xDA000301000055, 0xDB000302000055, 0x168000303000055,
    0x16A000304000055, 0x16C000306000055, 0xDC000308000055, 0x1EE6000309000055, 0x16E00030A000055,
    0x17000030B000055, 0x1D300030C000055, 0x21400030F000055, 0x216000311000055, 0x1AF00031B000055,
    0x1EE4000323000055, 0x1E72000324000055, 0x172000328000055, 0x1E7600032D000055,
    0x1E74000330000055, 0x1E7C000303000056, 0x1E7E000323000056, 0x1E80000300000057,
    0x1E82000301000057, 0x174000302000057, 0x1E86000307000057, 0x1E84000308000057,
    0x1E88000323000057, 0x1E8A000307000058, 0x1E8C000308000058, 0x1EF2000300000059,
    0xDD000301000059, 0x176000302000059, 0x1EF8000303000059, 0x232000304000059, 0x1E8E000307000059,
    0x178000308000059, 0x1EF6000309000059, 0x1EF4000323000059, 0x17900030100005A,
    0x1E9000030200005A, 0x17B00030700005A, 0x17D00030C00005A, 0x1E9200032300005A,
    0x1E9400033100005A, 0xE0000300000061, 0xE1000301000061, 0xE2000302000061, 0xE3000303000061,
    0x101000304000061, 0x103000306000061, 0x227000307000061, 0xE4000308000061, 0x1EA3000309000061,
    0xE500030A000061, 0x1CE00030C000061, 0x20100030F000061, 0x203000311000061, 0x1EA1000323000061,
    0x1E01000325000061, 0x105000328000061]),
  (0xCF, [
    0x1E03000307000062, 0x1E05000323000062, 0x1E07000331000062, 0x107000301000063,
    0x109000302000063, 0x10B000307000063, 0x10D00030C000063, 0xE7000327000063, 0x1E0B000307000064,
    0x10F00030C000064, 0x1E0D000323000064, 0x1E11000327000064, 0x1E1300032D000064,
    0x1E0F000331000064, 0xE8000300000065, 0xE9000301000065, 0xEA000302000065, 0x1EBD000303000065,
    0x113000304000065, 0x115000306000065, 0x117000307000065, 0xEB000308000065, 0x1EBB000309000065,
    0x11B00030C000065, 0x20500030F000065, 0x207000311000065, 0x1EB9000323000065, 0x229000327000065,
    0x119000328000065, 0x1E1900032D000065, 0x1E1B000330000065, 0x1E1F000307000066,
    0x1F5000301000067, 0x11D000302000067, 0x1E21000304000067, 0x11F000306000067, 0x121000307000067,
    0x1E700030C000067, 0x123000327000067, 0x125000302000068, 0x1E23000307000068,
    0x1E27000308000068, 0x21F00030C000068, 0x1E25000323000068, 0x1E29000327000068,
    0x1E2B00032E000068, 0x1E96000331000068, 0xEC000300000069, 0xED000301000069, 0xEE000302000069,
    0x129000303000069, 0x12B000304000069, 0x12D000306000069, 0xEF000308000069, 0x1EC9000309000069,
    0x1D000030C000069, 0x20900030F000069, 0x20B000311000069, 0x1ECB000323000069, 0x12F000328000069,
    0x1E2D000330000069, 0x13500030200006A, 0x1F000030C00006A, 0x1E3100030100006B,
    0x1E900030C00006B, 0x1E3300032300006B, 0x13700032700006B, 0x1E3500033100006B,
    0x13A00030100006C, 0x13E00030C00006C, 0x1E3700032300006C, 0x13C00032700006C,
    0x1E3D00032D00006C, 0x1E3B00033100006C, 0x1E3F00030100006D, 0x1E4100030700006D,
    0x1E4300032300006D, 0x1F900030000006E, 0x14400030100006E, 0xF100030300006E, 0x1E4500030700006E,
    0x14800030C00006E, 0x1E4700032300006E, 0x14600032700006E, 0x1E4B00032D00006E,
    0x1E4900033100006E, 0xF200030000006F, 0xF300030100006F, 0xF400030200006F, 0xF500030300006F,
    0x14D00030400006F, 0x14F00030600006F, 0x22F00030700006F, 0xF600030800006F, 0x1ECF00030900006F,
    0x15100030B00006F, 0x1D200030C00006F, 0x20D00030F00006F, 0x20F00031100006F, 0x1A100031B00006F,
    0x1ECD00032300006F, 0x1EB00032800006F, 0x1E55000301000070, 0x1E57000307000070,
    0x155000301000072, 0x1E59000307000072, 0x15900030C000072, 0x21100030F000072, 0x213000311000072,
    0x1E5B000323000072, 0x157000327000072, 0x1E5F000331000072, 0x15B000301000073,
    0x15D000302000073, 0x1E61000307000073, 0x16100030C000073, 0x1E63000323000073,
    0x219000326000073, 0x15F000327000073, 0x1E6B000307000074, 0x1E97000308000074,
    0x16500030C000074, 0x1E6D000323000074, 0x21B000326000074, 0x163000327000074,
    0x1E7100032D000074, 0x1E6F000331000074, 0xF9000300000075, 0xFA000301000075, 0xFB000302000075,
    0x169000303000075, 0x16B000304000075, 0x16D000306000075, 0xFC000308000075, 0x1EE7000309000075,
    0x16F00030A000075, 0x17100030B000075, 0x1D400030C000075, 0x21500030F000075, 0x217000311000075,
    0x1B000031B000075, 0x1EE5000323000075, 0x1E73000324000075, 0x173000328000075,
    0x1E7700032D000075, 0x1E75000330000075, 0x1E7D000303000076, 0x1E7F000323000076,
    0x1E81000300000077, 0x1E83000301000077, 0x175000302000077, 0x1E87000307000077,
    0x1E85000308000077, 0x1E9800030A000077, 0x1E89000323000077, 0x1E8B000307000078,
    0x1E8D000308000078, 0x1EF3000300000079, 0xFD000301000079, 0x177000302000079,
    0x1EF9000303000079, 0x233000304000079, 0x1E8F000307000079, 0xFF000308000079,
    0x1EF7000309000079, 0x1E9900030A000079, 0x1EF5000323000079, 0x17A00030100007A,
    0x1E9100030200007A, 0x17C00030700007A, 0x17E00030C00007A, 0x1E9300032300007A,
    0x1E9500033100007A, 0x1FED0003000000A8, 0x3850003010000A8, 0x1FC10003420000A8,
    0x1EA60003000000C2, 0x1EA40003010000C2, 0x1EAA0003030000C2, 0x1EA80003090000C2,
    0x1DE0003040000C4, 0x1FA0003010000C5, 0x1FC0003010000C6, 0x1E20003040000C6, 0x1E080003010000C7,
    0x1EC00003000000CA, 0x1EBE0003010000CA, 0x1EC40003030000CA, 0x1EC20003090000CA,
    0x1E2E0003010000CF]),
  (0x3D2, [
    0x1ED20003000000D4, 0x1ED00003010000D4, 0x1ED60003030000D4, 0x1ED40003090000D4,
    0x1E4C0003010000D5, 0x22C0003040000D5, 0x1E4E0003080000D5, 0x22A0003040000D6,
    0x1FE0003010000D8, 0x1DB0003000000DC, 0x1D70003010000DC, 0x1D50003040000DC, 0x1D900030C0000DC,
    0x1EA70003000000E2, 0x1EA50003010000E2, 0x1EAB0003030000E2, 0x1EA90003090000E2,
    0x1DF0003040000E4, 0x1FB0003010000E5, 0x1FD0003010000E6, 0x1E30003040000E6, 0x1E090003010000E7,
    0x1EC10003000000EA, 0x1EBF0003010000EA, 0x1EC50003030000EA, 0x1EC30003090000EA,
    0x1E2F0003010000EF, 0x1ED30003000000F4, 0x1ED10003010000F4, 0x1ED70003030000F4,
    0x1ED50003090000F4, 0x1E4D0003010000F5, 0x22D0003040000F5, 0x1E4F0003080000F5,
    0x22B0003040000F6, 0x1FF0003010000F8, 0x1DC0003000000FC, 0x1D80003010000FC, 0x1D60003040000FC,
    0x1DA00030C0000FC, 0x1EB0000300000102, 0x1EAE000301000102, 0x1EB4000303000102,
    0x1EB2000309000102, 0x1EB1000300000103, 0x1EAF000301000103, 0x1EB5000303000103,
    0x1EB3000309000103, 0x1E14000300000112, 0x1E16000301000112, 0x1E15000300000113,
    0x1E17000301000113, 0x1E5000030000014C, 0x1E5200030100014C, 0x1E5100030000014D,
    0x1E5300030100014D, 0x1E6400030700015A, 0x1E6500030700015B, 0x1E66000307000160,
    0x1E67000307000161, 0x1E78000301000168, 0x1E79000301000169, 0x1E7A00030800016A,
    0x1E7B00030800016B, 0x1E9B00030700017F, 0x1EDC0003000001A0, 0x1EDA0003010001A0,
    0x1EE00003030001A0, 0x1EDE0003090001A0, 0x1EE20003230001A0, 0x1EDD0003000001A1,
    0x1EDB0003010001A1, 0x1EE10003030001A1, 0x1EDF0003090001A1, 0x1EE30003230001A1,
    0x1EEA0003000001AF, 0x1EE80003010001AF, 0x1EEE0003030001AF, 0x1EEC0003090001AF,
    0x1EF00003230001AF, 0x1EEB0003000001B0, 0x1EE90003010001B0, 0x1EEF0003030001B0,
    0x1EED0003090001B0, 0x1EF10003230001B0, 0x1EE00030C0001B7, 0x1EC0003040001EA,
    0x1ED0003040001EB, 0x1E0000304000226, 0x1E1000304000227, 0x1E1C000306000228,
    0x1E1D000306000229, 0x23000030400022E, 0x23100030400022F, 0x1EF00030C000292,
    0x1FBA000300000391, 0x386000301000391, 0x1FB9000304000391, 0x1FB8000306000391,
    0x1F08000313000391, 0x1F09000314000391, 0x1FBC000345000391, 0x1FC8000300000395,
    0x388000301000395, 0x1F18000313000395, 0x1F19000314000395, 0x1FCA000300000397,
    0x389000301000397, 0x1F28000313000397, 0x1F29000314000397, 0x1FCC000345000397,
    0x1FDA000300000399, 0x38A000301000399, 0x1FD9000304000399, 0x1FD8000306000399,
    0x3AA000308000399, 0x1F38000313000399, 0x1F39000314000399, 0x1FF800030000039F,
    0x38C00030100039F, 0x1F4800031300039F, 0x1F4900031400039F, 0x1FEC0003140003A1,
    0x1FEA0003000003A5, 0x38E0003010003A5, 0x1FE90003040003A5, 0x1FE80003060003A5,
    0x3AB0003080003A5, 0x1F590003140003A5, 0x1FFA0003000003A9, 0x38F0003010003A9,
    0x1F680003130003A9, 0x1F690003140003A9, 0x1FFC0003450003A9, 0x1FB40003450003AC,
    0x1FC40003450003AE, 0x1F700003000003B1, 0x3AC0003010003B1, 0x1FB10003040003B1,
    0x1FB00003060003B1, 0x1F000003130003B1, 0x1F010003140003B1, 0x1FB60003420003B1,
    0x1FB30003450003B1, 0x1F720003000003B5, 0x3AD0003010003B5, 0x1F100003130003B5,
    0x1F110003140003B5, 0x1F740003000003B7, 0x3AE0003010003B7, 0x1F200003130003B7,
    0x1F210003140003B7, 0x1FC60003420003B7, 0x1FC30003450003B7, 0x1F760003000003B9,
    0x3AF0003010003B9, 0x1FD10003040003B9, 0x1FD00003060003B9, 0x3CA0003080003B9,
    0x1F300003130003B9, 0x1F310003140003B9, 0x1FD60003420003B9, 0x1F780003000003BF,
    0x3CC0003010003BF, 0x1F400003130003BF, 0x1F410003140003BF, 0x1FE40003130003C1,
    0x1FE50003140003C1, 0x1F7A0003000003C5, 0x3CD0003010003C5, 0x1FE10003040003C5,
    0x1FE00003060003C5, 0x3CB0003080003C5, 0x1F500003130003C5, 0x1F510003140003C5,
    0x1FE60003420003C5, 0x1F7C0003000003C9, 0x3CE0003010003C9, 0x1F600003130003C9,
    0x1F610003140003C9, 0x1FF60003420003C9, 0x1FF30003450003C9, 0x1FD20003000003CA,
    0x3900003010003CA, 0x1FD70003420003CA, 0x1FE20003000003CB, 0x3B00003010003CB,
    0x1FE70003420003CB, 0x1FF40003450003CE, 0x3D30003010003D2, 0x3D40003080003D2]),
  (0x1F41, [
    0x407000308000406, 0x4D0000306000410, 0x4D2000308000410, 0x403000301000413, 0x400000300000415,
    0x4D6000306000415, 0x401000308000415, 0x4C1000306000416, 0x4DC000308000416, 0x4DE000308000417,
    0x40D000300000418, 0x4E2000304000418, 0x419000306000418, 0x4E4000308000418, 0x40C00030100041A,
    0x4E600030800041E, 0x4EE000304000423, 0x40E000306000423, 0x4F0000308000423, 0x4F200030B000423,
    0x4F4000308000427, 0x4F800030800042B, 0x4EC00030800042D, 0x4D1000306000430, 0x4D3000308000430,
    0x453000301000433, 0x450000300000435, 0x4D7000306000435, 0x451000308000435, 0x4C2000306000436,
    0x4DD000308000436, 0x4DF000308000437, 0x45D000300000438, 0x4E3000304000438, 0x439000306000438,
    0x4E5000308000438, 0x45C00030100043A, 0x4E700030800043E, 0x4EF000304000443, 0x45E000306000443,
    0x4F1000308000443, 0x4F300030B000443, 0x4F5000308000447, 0x4F900030800044B, 0x4ED00030800044D,
    0x457000308000456, 0x47600030F000474, 0x47700030F000475, 0x4DA0003080004D8, 0x4DB0003080004D9,
    0x4EA0003080004E8, 0x4EB0003080004E9, 0x622000653000627, 0x623000654000627, 0x625000655000627,
    0x624000654000648, 0x62600065400064A, 0x6C20006540006C1, 0x6D30006540006D2, 0x6C00006540006D5,
    0x92900093C000928, 0x93100093C000930, 0x93400093C000933, 0x9CB0009BE0009C7, 0x9CC0009D70009C7,
    0xB4B000B3E000B47, 0xB48000B56000B47, 0xB4C000B57000B47, 0xB94000BD7000B92, 0xBCA000BBE000BC6,
    0xBCC000BD7000BC6, 0xBCB000BBE000BC7, 0xC48000C56000C46, 0xCC0000CD5000CBF, 0xCCA000CC2000CC6,
    0xCC7000CD5000CC6, 0xCC8000CD6000CC6, 0xCCB000CD5000CCA, 0xD4A000D3E000D46, 0xD4C000D57000D46,
    0xD4B000D3E000D47, 0xDDA000DCA000DD9, 0xDDC000DCF000DD9, 0xDDE000DDF000DD9, 0xDDD000DCA000DDC,
    0x102600102E001025, 0x1B06001B35001B05, 0x1B08001B35001B07, 0x1B0A001B35001B09,
    0x1B0C001B35001B0B, 0x1B0E001B35001B0D, 0x1B12001B35001B11, 0x1B3B001B35001B3A,
    0x1B3D001B35001B3C, 0x1B40001B35001B3E, 0x1B41001B35001B3F, 0x1B43001B35001B42,
    0x1E38000304001E36, 0x1E39000304001E37, 0x1E5C000304001E5A, 0x1E5D000304001E5B,
    0x1E68000307001E62, 0x1E69000307001E63, 0x1EAC000302001EA0, 0x1EB6000306001EA0,
    0x1EAD000302001EA1, 0x1EB7000306001EA1, 0x1EC6000302001EB8, 0x1EC7000302001EB9,
    0x1ED8000302001ECC, 0x1ED9000302001ECD, 0x1F02000300001F00, 0x1F04000301001F00,
    0x1F06000342001F00, 0x1F80000345001F00, 0x1F03000300001F01, 0x1F05000301001F01,
    0x1F07000342001F01, 0x1F81000345001F01, 0x1F82000345001F02, 0x1F83000345001F03,
    0x1F84000345001F04, 0x1F85000345001F05, 0x1F86000345001F06, 0x1F87000345001F07,
    0x1F0A000300001F08, 0x1F0C000301001F08, 0x1F0E000342001F08, 0x1F88000345001F08,
    0x1F0B000300001F09, 0x1F0D000301001F09, 0x1F0F000342001F09, 0x1F89000345001F09,
    0x1F8A000345001F0A, 0x1F8B000345001F0B, 0x1F8C000345001F0C, 0x1F8D000345001F0D,
    0x1F8E000345001F0E, 0x1F8F000345001F0F, 0x1F12000300001F10, 0x1F14000301001F10,
    0x1F13000300001F11, 0x1F15000301001F11, 0x1F1A000300001F18, 0x1F1C000301001F18,
    0x1F1B000300001F19, 0x1F1D000301001F19, 0x1F22000300001F20, 0x1F24000301001F20,
    0x1F26000342001F20, 0x1F90000345001F20, 0x1F23000300001F21, 0x1F25000301001F21,
    0x1F27000342001F21, 0x1F91000345001F21, 0x1F92000345001F22, 0x1F93000345001F23,
    0x1F94000345001F24, 0x1F95000345001F25, 0x1F96000345001F26, 0x1F97000345001F27,
    0x1F2A000300001F28, 0x1F2C000301001F28, 0x1F2E000342001F28, 0x1F98000345001F28,
    0x1F2B000300001F29, 0x1F2D000301001F29, 0x1F2F000342001F29, 0x1F99000345001F29,
    0x1F9A000345001F2A, 0x1F9B000345001F2B, 0x1F9C000345001F2C, 0x1F9D000345001F2D,
    0x1F9E000345001F2E, 0x1F9F000345001F2F, 0x1F32000300001F30, 0x1F34000301001F30,
    0x1F36000342001F30, 0x1F33000300001F31, 0x1F35000301001F31, 0x1F37000342001F31,
    0x1F3A000300001F38, 0x1F3C000301001F38, 0x1F3E000342001F38, 0x1F3B000300001F39,
    0x1F3D000301001F39, 0x1F3F000342001F39, 0x1F42000300001F40, 0x1F44000301001F40,
    0x1F43000300001F41, 0x1F45000301001F41]),
  (0x11935, [
    0x1F4A000300001F48, 0x1F4C000301001F48, 0x1F4B000300001F49, 0x1F4D000301001F49,
    0x1F52000300001F50, 0x1F54000301001F50, 0x1F56000342001F50, 0x1F53000300001F51,
    0x1F55000301001F51, 0x1F57000342001F51, 0x1F5B000300001F59, 0x1F5D000301001F59,
    0x1F5F000342001F59, 0x1F62000300001F60, 0x1F64000301001F60, 0x1F66000342001F60,
    0x1FA0000345001F60, 0x1F63000300001F61, 0x1F65000301001F61, 0x1F67000342001F61,
    0x1FA1000345001F61, 0x1FA2000345001F62, 0x1FA3000345001F63, 0x1FA4000345001F64,
    0x1FA5000345001F65, 0x1FA6000345001F66, 0x1FA7000345001F67, 0x1F6A000300001F68,
    0x1F6C000301001F68, 0x1F6E000342001F68, 0x1FA8000345001F68, 0x1F6B000300001F69,
    0x1F6D000301001F69, 0x1F6F000342001F69, 0x1FA9000345001F69, 0x1FAA000345001F6A,
    0x1FAB000345001F6B, 0x1FAC000345001F6C, 0x1FAD000345001F6D, 0x1FAE000345001F6E,
    0x1FAF000345001F6F, 0x1FB2000345001F70, 0x1FC2000345001F74, 0x1FF2000345001F7C,
    0x1FB7000345001FB6, 0x1FCD000300001FBF, 0x1FCE000301001FBF, 0x1FCF000342001FBF,
    0x1FC7000345001FC6, 0x1FF7000345001FF6, 0x1FDD000300001FFE, 0x1FDE000301001FFE,
    0x1FDF000342001FFE, 0x219A000338002190, 0x219B000338002192, 0x21AE000338002194,
    0x21CD0003380021D0, 0x21CF0003380021D2, 0x21CE0003380021D4, 0x2204000338002203,
    0x2209000338002208, 0x220C00033800220B, 0x2224000338002223, 0x2226000338002225,
    0x224100033800223C, 0x2244000338002243, 0x2247000338002245, 0x2249000338002248,
    0x226D00033800224D, 0x2262000338002261, 0x2270000338002264, 0x2271000338002265,
    0x2274000338002272, 0x2275000338002273, 0x2278000338002276, 0x2279000338002277,
    0x228000033800227A, 0x228100033800227B, 0x22E000033800227C, 0x22E100033800227D,
    0x2284000338002282, 0x2285000338002283, 0x2288000338002286, 0x2289000338002287,
    0x22E2000338002291, 0x22E3000338002292, 0x22AC0003380022A2, 0x22AD0003380022A8,
    0x22AE0003380022A9, 0x22AF0003380022AB, 0x22EA0003380022B2, 0x22EB0003380022B3,
    0x22EC0003380022B4, 0x22ED0003380022B5, 0x3094003099003046, 0x304C00309900304B,
    0x304E00309900304D, 0x305000309900304F, 0x3052003099003051, 0x3054003099003053,
    0x3056003099003055, 0x3058003099003057, 0x305A003099003059, 0x305C00309900305B,
    0x305E00309900305D, 0x306000309900305F, 0x3062003099003061, 0x3065003099003064,
    0x3067003099003066, 0x3069003099003068, 0x307000309900306F, 0x307100309A00306F,
    0x3073003099003072, 0x307400309A003072, 0x3076003099003075, 0x307700309A003075,
    0x3079003099003078, 0x307A00309A003078, 0x307C00309900307B, 0x307D00309A00307B,
    0x309E00309900309D, 0x30F40030990030A6, 0x30AC0030990030AB, 0x30AE0030990030AD,
    0x30B00030990030AF, 0x30B20030990030B1, 0x30B40030990030B3, 0x30B60030990030B5,
    0x30B80030990030B7, 0x30BA0030990030B9, 0x30BC0030990030BB, 0x30BE0030990030BD,
    0x30C00030990030BF, 0x30C20030990030C1, 0x30C50030990030C4, 0x30C70030990030C6,
    0x30C90030990030C8, 0x30D00030990030CF, 0x30D100309A0030CF, 0x30D30030990030D2,
    0x30D400309A0030D2, 0x30D60030990030D5, 0x30D700309A0030D5, 0x30D90030990030D8,
    0x30DA00309A0030D8, 0x30DC0030990030DB, 0x30DD00309A0030DB, 0x30F70030990030EF,
    0x30F80030990030F0, 0x30F90030990030F1, 0x30FA0030990030F2, 0x30FE0030990030FD,
    0x1109A0110BA011099, 0x1109C0110BA01109B, 0x110AB0110BA0110A5, 0x1112E011127011131,
    0x1112F011127011132, 0x1134B01133E011347, 0x1134C011357011347, 0x114BC0114B00114B9,
    0x114BB0114BA0114B9, 0x114BE0114BD0114B9, 0x115BA0115AF0115B8, 0x115BB0115AF0115B9,
    0x11938011930011935])]

/-- A Hangul syllable from a leading letter and a vowel, or from an open syllable and a tail. -/
def composeHangul (first second : Nat) : Option Char :=
  if 0x1100 ≤ first ∧ first < 0x1113 ∧ 0x1161 ≤ second ∧ second < 0x1176 then
    some (Char.ofNat (0xAC00 + ((first - 0x1100) * 21 + (second - 0x1161)) * 28))
  else if 0xAC00 ≤ first ∧ first ≤ 0xD7A3 ∧ (first - 0xAC00) % 28 = 0
      ∧ 0x11A8 ≤ second ∧ second < 0x11C3 then
    some (Char.ofNat (first + (second - 0x11A7)))
  else none

/-- The character that two neighbours compose to. -/
def compose (first second : Char) : Option Char :=
  match composeHangul first.toNat second.toNat with
  | some c => some c
  | none => (compositions.findAll first).findSome? fun
    | [b, c] => if b = second then some c else none
    | _ => none

end MarkdownCheck.Unicode
