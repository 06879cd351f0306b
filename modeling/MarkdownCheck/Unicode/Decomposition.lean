import MarkdownCheck.Unicode.Packed

/-!
# Compatibility decompositions

- `decompose`: the full compatibility decomposition of one character, `none` where a character
  stands for itself. Hangul syllables are computed, every other character is looked up.
- `decompositions`: the table, for characters from U+00A0 on; no earlier character decomposes.
-/

namespace MarkdownCheck.Unicode

/-- Letters and marks below U+2000. -/
def letterDecompositions : PackedTable := [
  (0x209, [
    0x200000A0, 0x3080000200000A8, 0x610000AA, 0x3040000200000AF, 0x320000B2, 0x330000B3,
    0x3010000200000B4, 0x3BC0000B5, 0x3270000200000B8, 0x310000B9, 0x6F0000BA,
    0x340020440000310000BC, 0x320020440000310000BD, 0x340020440000330000BE, 0x3000000410000C0,
    0x3010000410000C1, 0x3020000410000C2, 0x3030000410000C3, 0x3080000410000C4, 0x30A0000410000C5,
    0x3270000430000C7, 0x3000000450000C8, 0x3010000450000C9, 0x3020000450000CA, 0x3080000450000CB,
    0x3000000490000CC, 0x3010000490000CD, 0x3020000490000CE, 0x3080000490000CF, 0x30300004E0000D1,
    0x30000004F0000D2, 0x30100004F0000D3, 0x30200004F0000D4, 0x30300004F0000D5, 0x30800004F0000D6,
    0x3000000550000D9, 0x3010000550000DA, 0x3020000550000DB, 0x3080000550000DC, 0x3010000590000DD,
    0x3000000610000E0, 0x3010000610000E1, 0x3020000610000E2, 0x3030000610000E3, 0x3080000610000E4,
    0x30A0000610000E5, 0x3270000630000E7, 0x3000000650000E8, 0x3010000650000E9, 0x3020000650000EA,
    0x3080000650000EB, 0x3000000690000EC, 0x3010000690000ED, 0x3020000690000EE, 0x3080000690000EF,
    0x30300006E0000F1, 0x30000006F0000F2, 0x30100006F0000F3, 0x30200006F0000F4, 0x30300006F0000F5,
    0x30800006F0000F6, 0x3000000750000F9, 0x3010000750000FA, 0x3020000750000FB, 0x3080000750000FC,
    0x3010000790000FD, 0x3080000790000FF, 0x304000041000100, 0x304000061000101, 0x306000041000102,
    0x306000061000103, 0x328000041000104, 0x328000061000105, 0x301000043000106, 0x301000063000107,
    0x302000043000108, 0x302000063000109, 0x30700004300010A, 0x30700006300010B, 0x30C00004300010C,
    0x30C00006300010D, 0x30C00004400010E, 0x30C00006400010F, 0x304000045000112, 0x304000065000113,
    0x306000045000114, 0x306000065000115, 0x307000045000116, 0x307000065000117, 0x328000045000118,
    0x328000065000119, 0x30C00004500011A, 0x30C00006500011B, 0x30200004700011C, 0x30200006700011D,
    0x30600004700011E, 0x30600006700011F, 0x307000047000120, 0x307000067000121, 0x327000047000122,
    0x327000067000123, 0x302000048000124, 0x302000068000125, 0x303000049000128, 0x303000069000129,
    0x30400004900012A, 0x30400006900012B, 0x30600004900012C, 0x30600006900012D, 0x32800004900012E,
    0x32800006900012F, 0x307000049000130, 0x4A000049000132, 0x6A000069000133, 0x30200004A000134,
    0x30200006A000135, 0x32700004B000136, 0x32700006B000137, 0x30100004C000139, 0x30100006C00013A,
    0x32700004C00013B, 0x32700006C00013C, 0x30C00004C00013D, 0x30C00006C00013E, 0xB700004C00013F,
    0xB700006C000140, 0x30100004E000143, 0x30100006E000144, 0x32700004E000145, 0x32700006E000146,
    0x30C00004E000147, 0x30C00006E000148, 0x6E0002BC000149, 0x30400004F00014C, 0x30400006F00014D,
    0x30600004F00014E, 0x30600006F00014F, 0x30B00004F000150, 0x30B00006F000151, 0x301000052000154,
    0x301000072000155, 0x327000052000156, 0x327000072000157, 0x30C000052000158, 0x30C000072000159,
    0x30100005300015A, 0x30100007300015B, 0x30200005300015C, 0x30200007300015D, 0x32700005300015E,
    0x32700007300015F, 0x30C000053000160, 0x30C000073000161, 0x327000054000162, 0x327000074000163,
    0x30C000054000164, 0x30C000074000165, 0x303000055000168, 0x303000075000169, 0x30400005500016A,
    0x30400007500016B, 0x30600005500016C, 0x30600007500016D, 0x30A00005500016E, 0x30A00007500016F,
    0x30B000055000170, 0x30B000075000171, 0x328000055000172, 0x328000075000173, 0x302000057000174,
    0x302000077000175, 0x302000059000176, 0x302000079000177, 0x308000059000178, 0x30100005A000179,
    0x30100007A00017A, 0x30700005A00017B, 0x30700007A00017C, 0x30C00005A00017D, 0x30C00007A00017E,
    0x7300017F, 0x31B00004F0001A0, 0x31B00006F0001A1, 0x31B0000550001AF, 0x31B0000750001B0,
    0x30C00005A0000440001C4, 0x30C00007A0000440001C5, 0x30C00007A0000640001C6, 0x4A00004C0001C7,
    0x6A00004C0001C8, 0x6A00006C0001C9, 0x4A00004E0001CA, 0x6A00004E0001CB, 0x6A00006E0001CC,
    0x30C0000410001CD, 0x30C0000610001CE, 0x30C0000490001CF, 0x30C0000690001D0, 0x30C00004F0001D1,
    0x30C00006F0001D2, 0x30C0000550001D3, 0x30C0000750001D4, 0x3040003080000550001D5,
    0x3040003080000750001D6, 0x3010003080000550001D7, 0x3010003080000750001D8,
    0x30C0003080000550001D9, 0x30C0003080000750001DA, 0x3000003080000550001DB,
    0x3000003080000750001DC, 0x3040003080000410001DE, 0x3040003080000610001DF,
    0x3040003070000410001E0, 0x3040003070000610001E1, 0x3040000C60001E2, 0x3040000E60001E3,
    0x30C0000470001E6, 0x30C0000670001E7, 0x30C00004B0001E8, 0x30C00006B0001E9, 0x32800004F0001EA,
    0x32800006F0001EB, 0x30400032800004F0001EC, 0x30400032800006F0001ED, 0x30C0001B70001EE,
    0x30C0002920001EF, 0x30C00006A0001F0, 0x5A0000440001F1, 0x7A0000440001F2, 0x7A0000640001F3,
    0x3010000470001F4, 0x3010000670001F5, 0x30000004E0001F8, 0x30000006E0001F9,
    0x30100030A0000410001FA, 0x30100030A0000610001FB, 0x3010000C60001FC, 0x3010000E60001FD,
    0x3010000D80001FE, 0x3010000F80001FF, 0x30F000041000200, 0x30F000061000201, 0x311000041000202,
    0x311000061000203, 0x30F000045000204, 0x30F000065000205, 0x311000045000206, 0x311000065000207,
    0x30F000049000208, 0x30F000069000209]),
  (0x1D33, [
    0x31100004900020A, 0x31100006900020B, 0x30F00004F00020C, 0x30F00006F00020D, 0x31100004F00020E,
    0x31100006F00020F, 0x30F000052000210, 0x30F000072000211, 0x311000052000212, 0x311000072000213,
    0x30F000055000214, 0x30F000075000215, 0x311000055000216, 0x311000075000217, 0x326000053000218,
    0x326000073000219, 0x32600005400021A, 0x32600007400021B, 0x30C00004800021E, 0x30C00006800021F,
    0x307000041000226, 0x307000061000227, 0x327000045000228, 0x327000065000229,
    0x30400030800004F00022A, 0x30400030800006F00022B, 0x30400030300004F00022C,
    0x30400030300006F00022D, 0x30700004F00022E, 0x30700006F00022F, 0x30400030700004F000230,
    0x30400030700006F000231, 0x304000059000232, 0x304000079000233, 0x680002B0, 0x2660002B1,
    0x6A0002B2, 0x720002B3, 0x2790002B4, 0x27B0002B5, 0x2810002B6, 0x770002B7, 0x790002B8,
    0x3060000200002D8, 0x3070000200002D9, 0x30A0000200002DA, 0x3280000200002DB, 0x3030000200002DC,
    0x30B0000200002DD, 0x2630002E0, 0x6C0002E1, 0x730002E2, 0x780002E3, 0x2950002E4, 0x300000340,
    0x301000341, 0x313000343, 0x301000308000344, 0x2B9000374, 0x34500002000037A, 0x3B00037E,
    0x301000020000384, 0x301000308000020000385, 0x301000391000386, 0xB7000387, 0x301000395000388,
    0x301000397000389, 0x30100039900038A, 0x30100039F00038C, 0x3010003A500038E, 0x3010003A900038F,
    0x3010003080003B9000390, 0x3080003990003AA, 0x3080003A50003AB, 0x3010003B10003AC,
    0x3010003B50003AD, 0x3010003B70003AE, 0x3010003B90003AF, 0x3010003080003C50003B0,
    0x3080003B90003CA, 0x3080003C50003CB, 0x3010003BF0003CC, 0x3010003C50003CD, 0x3010003C90003CE,
    0x3B20003D0, 0x3B80003D1, 0x3A50003D2, 0x3010003A50003D3, 0x3080003A50003D4, 0x3C60003D5,
    0x3C00003D6, 0x3BA0003F0, 0x3C10003F1, 0x3C20003F2, 0x3980003F4, 0x3B50003F5, 0x3A30003F9,
    0x300000415000400, 0x308000415000401, 0x301000413000403, 0x308000406000407, 0x30100041A00040C,
    0x30000041800040D, 0x30600042300040E, 0x306000418000419, 0x306000438000439, 0x300000435000450,
    0x308000435000451, 0x301000433000453, 0x308000456000457, 0x30100043A00045C, 0x30000043800045D,
    0x30600044300045E, 0x30F000474000476, 0x30F000475000477, 0x3060004160004C1, 0x3060004360004C2,
    0x3060004100004D0, 0x3060004300004D1, 0x3080004100004D2, 0x3080004300004D3, 0x3060004150004D6,
    0x3060004350004D7, 0x3080004D80004DA, 0x3080004D90004DB, 0x3080004160004DC, 0x3080004360004DD,
    0x3080004170004DE, 0x3080004370004DF, 0x3040004180004E2, 0x3040004380004E3, 0x3080004180004E4,
    0x3080004380004E5, 0x30800041E0004E6, 0x30800043E0004E7, 0x3080004E80004EA, 0x3080004E90004EB,
    0x30800042D0004EC, 0x30800044D0004ED, 0x3040004230004EE, 0x3040004430004EF, 0x3080004230004F0,
    0x3080004430004F1, 0x30B0004230004F2, 0x30B0004430004F3, 0x3080004270004F4, 0x3080004470004F5,
    0x30800042B0004F8, 0x30800044B0004F9, 0x582000565000587, 0x653000627000622, 0x654000627000623,
    0x654000648000624, 0x655000627000625, 0x65400064A000626, 0x674000627000675, 0x674000648000676,
    0x6740006C7000677, 0x67400064A000678, 0x6540006D50006C0, 0x6540006C10006C2, 0x6540006D20006D3,
    0x93C000928000929, 0x93C000930000931, 0x93C000933000934, 0x93C000915000958, 0x93C000916000959,
    0x93C00091700095A, 0x93C00091C00095B, 0x93C00092100095C, 0x93C00092200095D, 0x93C00092B00095E,
    0x93C00092F00095F, 0x9BE0009C70009CB, 0x9D70009C70009CC, 0x9BC0009A10009DC, 0x9BC0009A20009DD,
    0x9BC0009AF0009DF, 0xA3C000A32000A33, 0xA3C000A38000A36, 0xA3C000A16000A59, 0xA3C000A17000A5A,
    0xA3C000A1C000A5B, 0xA3C000A2B000A5E, 0xB56000B47000B48, 0xB3E000B47000B4B, 0xB57000B47000B4C,
    0xB3C000B21000B5C, 0xB3C000B22000B5D, 0xBD7000B92000B94, 0xBBE000BC6000BCA, 0xBBE000BC7000BCB,
    0xBD7000BC6000BCC, 0xC56000C46000C48, 0xCD5000CBF000CC0, 0xCD5000CC6000CC7, 0xCD6000CC6000CC8,
    0xCC2000CC6000CCA, 0xCD5000CC2000CC6000CCB, 0xD3E000D46000D4A, 0xD3E000D47000D4B,
    0xD57000D46000D4C, 0xDCA000DD9000DDA, 0xDCF000DD9000DDC, 0xDCA000DCF000DD9000DDD,
    0xDDF000DD9000DDE, 0xE32000E4D000E33, 0xEB2000ECD000EB3, 0xE99000EAB000EDC, 0xEA1000EAB000EDD,
    0xF0B000F0C, 0xFB7000F42000F43, 0xFB7000F4C000F4D, 0xFB7000F51000F52, 0xFB7000F56000F57,
    0xFB7000F5B000F5C, 0xFB5000F40000F69, 0xF72000F71000F73, 0xF74000F71000F75, 0xF80000FB2000F76,
    0xF80000F71000FB2000F77, 0xF80000FB3000F78, 0xF80000F71000FB3000F79, 0xF80000F71000F81,
    0xFB7000F92000F93, 0xFB7000F9C000F9D, 0xFB7000FA1000FA2, 0xFB7000FA6000FA7, 0xFB7000FAB000FAC,
    0xFB5000F90000FB9, 0x102E001025001026, 0x10DC0010FC, 0x1B35001B05001B06, 0x1B35001B07001B08,
    0x1B35001B09001B0A, 0x1B35001B0B001B0C, 0x1B35001B0D001B0E, 0x1B35001B11001B12,
    0x1B35001B3A001B3B, 0x1B35001B3C001B3D, 0x1B35001B3E001B40, 0x1B35001B3F001B41,
    0x1B35001B42001B43, 0x41001D2C, 0xC6001D2D, 0x42001D2E, 0x44001D30, 0x45001D31, 0x18E001D32,
    0x47001D33]),
  (0x1EA2, [
    0x48001D34, 0x49001D35, 0x4A001D36, 0x4B001D37, 0x4C001D38, 0x4D001D39, 0x4E001D3A, 0x4F001D3C,
    0x222001D3D, 0x50001D3E, 0x52001D3F, 0x54001D40, 0x55001D41, 0x57001D42, 0x61001D43,
    0x250001D44, 0x251001D45, 0x1D02001D46, 0x62001D47, 0x64001D48, 0x65001D49, 0x259001D4A,
    0x25B001D4B, 0x25C001D4C, 0x67001D4D, 0x6B001D4F, 0x6D001D50, 0x14B001D51, 0x6F001D52,
    0x254001D53, 0x1D16001D54, 0x1D17001D55, 0x70001D56, 0x74001D57, 0x75001D58, 0x1D1D001D59,
    0x26F001D5A, 0x76001D5B, 0x1D25001D5C, 0x3B2001D5D, 0x3B3001D5E, 0x3B4001D5F, 0x3C6001D60,
    0x3C7001D61, 0x69001D62, 0x72001D63, 0x75001D64, 0x76001D65, 0x3B2001D66, 0x3B3001D67,
    0x3C1001D68, 0x3C6001D69, 0x3C7001D6A, 0x43D001D78, 0x252001D9B, 0x63001D9C, 0x255001D9D,
    0xF0001D9E, 0x25C001D9F, 0x66001DA0, 0x25F001DA1, 0x261001DA2, 0x265001DA3, 0x268001DA4,
    0x269001DA5, 0x26A001DA6, 0x1D7B001DA7, 0x29D001DA8, 0x26D001DA9, 0x1D85001DAA, 0x29F001DAB,
    0x271001DAC, 0x270001DAD, 0x272001DAE, 0x273001DAF, 0x274001DB0, 0x275001DB1, 0x278001DB2,
    0x282001DB3, 0x283001DB4, 0x1AB001DB5, 0x289001DB6, 0x28A001DB7, 0x1D1C001DB8, 0x28B001DB9,
    0x28C001DBA, 0x7A001DBB, 0x290001DBC, 0x291001DBD, 0x292001DBE, 0x3B8001DBF, 0x325000041001E00,
    0x325000061001E01, 0x307000042001E02, 0x307000062001E03, 0x323000042001E04, 0x323000062001E05,
    0x331000042001E06, 0x331000062001E07, 0x301000327000043001E08, 0x301000327000063001E09,
    0x307000044001E0A, 0x307000064001E0B, 0x323000044001E0C, 0x323000064001E0D, 0x331000044001E0E,
    0x331000064001E0F, 0x327000044001E10, 0x327000064001E11, 0x32D000044001E12, 0x32D000064001E13,
    0x300000304000045001E14, 0x300000304000065001E15, 0x301000304000045001E16,
    0x301000304000065001E17, 0x32D000045001E18, 0x32D000065001E19, 0x330000045001E1A,
    0x330000065001E1B, 0x306000327000045001E1C, 0x306000327000065001E1D, 0x307000046001E1E,
    0x307000066001E1F, 0x304000047001E20, 0x304000067001E21, 0x307000048001E22, 0x307000068001E23,
    0x323000048001E24, 0x323000068001E25, 0x308000048001E26, 0x308000068001E27, 0x327000048001E28,
    0x327000068001E29, 0x32E000048001E2A, 0x32E000068001E2B, 0x330000049001E2C, 0x330000069001E2D,
    0x301000308000049001E2E, 0x301000308000069001E2F, 0x30100004B001E30, 0x30100006B001E31,
    0x32300004B001E32, 0x32300006B001E33, 0x33100004B001E34, 0x33100006B001E35, 0x32300004C001E36,
    0x32300006C001E37, 0x30400032300004C001E38, 0x30400032300006C001E39, 0x33100004C001E3A,
    0x33100006C001E3B, 0x32D00004C001E3C, 0x32D00006C001E3D, 0x30100004D001E3E, 0x30100006D001E3F,
    0x30700004D001E40, 0x30700006D001E41, 0x32300004D001E42, 0x32300006D001E43, 0x30700004E001E44,
    0x30700006E001E45, 0x32300004E001E46, 0x32300006E001E47, 0x33100004E001E48, 0x33100006E001E49,
    0x32D00004E001E4A, 0x32D00006E001E4B, 0x30100030300004F001E4C, 0x30100030300006F001E4D,
    0x30800030300004F001E4E, 0x30800030300006F001E4F, 0x30000030400004F001E50,
    0x30000030400006F001E51, 0x30100030400004F001E52, 0x30100030400006F001E53, 0x301000050001E54,
    0x301000070001E55, 0x307000050001E56, 0x307000070001E57, 0x307000052001E58, 0x307000072001E59,
    0x323000052001E5A, 0x323000072001E5B, 0x304000323000052001E5C, 0x304000323000072001E5D,
    0x331000052001E5E, 0x331000072001E5F, 0x307000053001E60, 0x307000073001E61, 0x323000053001E62,
    0x323000073001E63, 0x307000301000053001E64, 0x307000301000073001E65, 0x30700030C000053001E66,
    0x30700030C000073001E67, 0x307000323000053001E68, 0x307000323000073001E69, 0x307000054001E6A,
    0x307000074001E6B, 0x323000054001E6C, 0x323000074001E6D, 0x331000054001E6E, 0x331000074001E6F,
    0x32D000054001E70, 0x32D000074001E71, 0x324000055001E72, 0x324000075001E73, 0x330000055001E74,
    0x330000075001E75, 0x32D000055001E76, 0x32D000075001E77, 0x301000303000055001E78,
    0x301000303000075001E79, 0x308000304000055001E7A, 0x308000304000075001E7B, 0x303000056001E7C,
    0x303000076001E7D, 0x323000056001E7E, 0x323000076001E7F, 0x300000057001E80, 0x300000077001E81,
    0x301000057001E82, 0x301000077001E83, 0x308000057001E84, 0x308000077001E85, 0x307000057001E86,
    0x307000077001E87, 0x323000057001E88, 0x323000077001E89, 0x307000058001E8A, 0x307000078001E8B,
    0x308000058001E8C, 0x308000078001E8D, 0x307000059001E8E, 0x307000079001E8F, 0x30200005A001E90,
    0x30200007A001E91, 0x32300005A001E92, 0x32300007A001E93, 0x33100005A001E94, 0x33100007A001E95,
    0x331000068001E96, 0x308000074001E97, 0x30A000077001E98, 0x30A000079001E99, 0x2BE000061001E9A,
    0x307000073001E9B, 0x323000041001EA0, 0x323000061001EA1, 0x309000041001EA2]),
  (0x1FB0, [
    0x309000061001EA3, 0x301000302000041001EA4, 0x301000302000061001EA5, 0x300000302000041001EA6,
    0x300000302000061001EA7, 0x309000302000041001EA8, 0x309000302000061001EA9,
    0x303000302000041001EAA, 0x303000302000061001EAB, 0x302000323000041001EAC,
    0x302000323000061001EAD, 0x301000306000041001EAE, 0x301000306000061001EAF,
    0x300000306000041001EB0, 0x300000306000061001EB1, 0x309000306000041001EB2,
    0x309000306000061001EB3, 0x303000306000041001EB4, 0x303000306000061001EB5,
    0x306000323000041001EB6, 0x306000323000061001EB7, 0x323000045001EB8, 0x323000065001EB9,
    0x309000045001EBA, 0x309000065001EBB, 0x303000045001EBC, 0x303000065001EBD,
    0x301000302000045001EBE, 0x301000302000065001EBF, 0x300000302000045001EC0,
    0x300000302000065001EC1, 0x309000302000045001EC2, 0x309000302000065001EC3,
    0x303000302000045001EC4, 0x303000302000065001EC5, 0x302000323000045001EC6,
    0x302000323000065001EC7, 0x309000049001EC8, 0x309000069001EC9, 0x323000049001ECA,
    0x323000069001ECB, 0x32300004F001ECC, 0x32300006F001ECD, 0x30900004F001ECE, 0x30900006F001ECF,
    0x30100030200004F001ED0, 0x30100030200006F001ED1, 0x30000030200004F001ED2,
    0x30000030200006F001ED3, 0x30900030200004F001ED4, 0x30900030200006F001ED5,
    0x30300030200004F001ED6, 0x30300030200006F001ED7, 0x30200032300004F001ED8,
    0x30200032300006F001ED9, 0x30100031B00004F001EDA, 0x30100031B00006F001EDB,
    0x30000031B00004F001EDC, 0x30000031B00006F001EDD, 0x30900031B00004F001EDE,
    0x30900031B00006F001EDF, 0x30300031B00004F001EE0, 0x30300031B00006F001EE1,
    0x32300031B00004F001EE2, 0x32300031B00006F001EE3, 0x323000055001EE4, 0x323000075001EE5,
    0x309000055001EE6, 0x309000075001EE7, 0x30100031B000055001EE8, 0x30100031B000075001EE9,
    0x30000031B000055001EEA, 0x30000031B000075001EEB, 0x30900031B000055001EEC,
    0x30900031B000075001EED, 0x30300031B000055001EEE, 0x30300031B000075001EEF,
    0x32300031B000055001EF0, 0x32300031B000075001EF1, 0x300000059001EF2, 0x300000079001EF3,
    0x323000059001EF4, 0x323000079001EF5, 0x309000059001EF6, 0x309000079001EF7, 0x303000059001EF8,
    0x303000079001EF9, 0x3130003B1001F00, 0x3140003B1001F01, 0x3000003130003B1001F02,
    0x3000003140003B1001F03, 0x3010003130003B1001F04, 0x3010003140003B1001F05,
    0x3420003130003B1001F06, 0x3420003140003B1001F07, 0x313000391001F08, 0x314000391001F09,
    0x300000313000391001F0A, 0x300000314000391001F0B, 0x301000313000391001F0C,
    0x301000314000391001F0D, 0x342000313000391001F0E, 0x342000314000391001F0F, 0x3130003B5001F10,
    0x3140003B5001F11, 0x3000003130003B5001F12, 0x3000003140003B5001F13, 0x3010003130003B5001F14,
    0x3010003140003B5001F15, 0x313000395001F18, 0x314000395001F19, 0x300000313000395001F1A,
    0x300000314000395001F1B, 0x301000313000395001F1C, 0x301000314000395001F1D, 0x3130003B7001F20,
    0x3140003B7001F21, 0x3000003130003B7001F22, 0x3000003140003B7001F23, 0x3010003130003B7001F24,
    0x3010003140003B7001F25, 0x3420003130003B7001F26, 0x3420003140003B7001F27, 0x313000397001F28,
    0x314000397001F29, 0x300000313000397001F2A, 0x300000314000397001F2B, 0x301000313000397001F2C,
    0x301000314000397001F2D, 0x342000313000397001F2E, 0x342000314000397001F2F, 0x3130003B9001F30,
    0x3140003B9001F31, 0x3000003130003B9001F32, 0x3000003140003B9001F33, 0x3010003130003B9001F34,
    0x3010003140003B9001F35, 0x3420003130003B9001F36, 0x3420003140003B9001F37, 0x313000399001F38,
    0x314000399001F39, 0x300000313000399001F3A, 0x300000314000399001F3B, 0x301000313000399001F3C,
    0x301000314000399001F3D, 0x342000313000399001F3E, 0x342000314000399001F3F, 0x3130003BF001F40,
    0x3140003BF001F41, 0x3000003130003BF001F42, 0x3000003140003BF001F43, 0x3010003130003BF001F44,
    0x3010003140003BF001F45, 0x31300039F001F48, 0x31400039F001F49, 0x30000031300039F001F4A,
    0x30000031400039F001F4B, 0x30100031300039F001F4C, 0x30100031400039F001F4D, 0x3130003C5001F50,
    0x3140003C5001F51, 0x3000003130003C5001F52, 0x3000003140003C5001F53, 0x3010003130003C5001F54,
    0x3010003140003C5001F55, 0x3420003130003C5001F56, 0x3420003140003C5001F57, 0x3140003A5001F59,
    0x3000003140003A5001F5B, 0x3010003140003A5001F5D, 0x3420003140003A5001F5F, 0x3130003C9001F60,
    0x3140003C9001F61, 0x3000003130003C9001F62, 0x3000003140003C9001F63, 0x3010003130003C9001F64,
    0x3010003140003C9001F65, 0x3420003130003C9001F66, 0x3420003140003C9001F67, 0x3130003A9001F68,
    0x3140003A9001F69, 0x3000003130003A9001F6A, 0x3000003140003A9001F6B, 0x3010003130003A9001F6C,
    0x3010003140003A9001F6D, 0x3420003130003A9001F6E, 0x3420003140003A9001F6F, 0x3000003B1001F70,
    0x3010003B1001F71, 0x3000003B5001F72, 0x3010003B5001F73, 0x3000003B7001F74, 0x3010003B7001F75,
    0x3000003B9001F76, 0x3010003B9001F77, 0x3000003BF001F78, 0x3010003BF001F79, 0x3000003C5001F7A,
    0x3010003C5001F7B, 0x3000003C9001F7C, 0x3010003C9001F7D, 0x3450003130003B1001F80,
    0x3450003140003B1001F81, 0x3450003000003130003B1001F82, 0x3450003000003140003B1001F83,
    0x3450003010003130003B1001F84, 0x3450003010003140003B1001F85, 0x3450003420003130003B1001F86,
    0x3450003420003140003B1001F87, 0x345000313000391001F88, 0x345000314000391001F89,
    0x345000300000313000391001F8A, 0x345000300000314000391001F8B, 0x345000301000313000391001F8C,
    0x345000301000314000391001F8D, 0x345000342000313000391001F8E, 0x345000342000314000391001F8F,
    0x3450003130003B7001F90, 0x3450003140003B7001F91, 0x3450003000003130003B7001F92,
    0x3450003000003140003B7001F93, 0x3450003010003130003B7001F94, 0x3450003010003140003B7001F95,
    0x3450003420003130003B7001F96, 0x3450003420003140003B7001F97, 0x345000313000397001F98,
    0x345000314000397001F99, 0x345000300000313000397001F9A, 0x345000300000314000397001F9B,
    0x345000301000313000397001F9C, 0x345000301000314000397001F9D, 0x345000342000313000397001F9E,
    0x345000342000314000397001F9F, 0x3450003130003C9001FA0, 0x3450003140003C9001FA1,
    0x3450003000003130003C9001FA2, 0x3450003000003140003C9001FA3, 0x3450003010003130003C9001FA4,
    0x3450003010003140003C9001FA5, 0x3450003420003130003C9001FA6, 0x3450003420003140003C9001FA7,
    0x3450003130003A9001FA8, 0x3450003140003A9001FA9, 0x3450003000003130003A9001FAA,
    0x3450003000003140003A9001FAB, 0x3450003010003130003A9001FAC, 0x3450003010003140003A9001FAD,
    0x3450003420003130003A9001FAE, 0x3450003420003140003A9001FAF, 0x3060003B1001FB0]),
  (0x1FFE, [
    0x3040003B1001FB1, 0x3450003000003B1001FB2, 0x3450003B1001FB3, 0x3450003010003B1001FB4,
    0x3420003B1001FB6, 0x3450003420003B1001FB7, 0x306000391001FB8, 0x304000391001FB9,
    0x300000391001FBA, 0x301000391001FBB, 0x345000391001FBC, 0x313000020001FBD, 0x3B9001FBE,
    0x313000020001FBF, 0x342000020001FC0, 0x342000308000020001FC1, 0x3450003000003B7001FC2,
    0x3450003B7001FC3, 0x3450003010003B7001FC4, 0x3420003B7001FC6, 0x3450003420003B7001FC7,
    0x300000395001FC8, 0x301000395001FC9, 0x300000397001FCA, 0x301000397001FCB, 0x345000397001FCC,
    0x300000313000020001FCD, 0x301000313000020001FCE, 0x342000313000020001FCF, 0x3060003B9001FD0,
    0x3040003B9001FD1, 0x3000003080003B9001FD2, 0x3010003080003B9001FD3, 0x3420003B9001FD6,
    0x3420003080003B9001FD7, 0x306000399001FD8, 0x304000399001FD9, 0x300000399001FDA,
    0x301000399001FDB, 0x300000314000020001FDD, 0x301000314000020001FDE, 0x342000314000020001FDF,
    0x3060003C5001FE0, 0x3040003C5001FE1, 0x3000003080003C5001FE2, 0x3010003080003C5001FE3,
    0x3130003C1001FE4, 0x3140003C1001FE5, 0x3420003C5001FE6, 0x3420003080003C5001FE7,
    0x3060003A5001FE8, 0x3040003A5001FE9, 0x3000003A5001FEA, 0x3010003A5001FEB, 0x3140003A1001FEC,
    0x300000308000020001FED, 0x301000308000020001FEE, 0x60001FEF, 0x3450003000003C9001FF2,
    0x3450003C9001FF3, 0x3450003010003C9001FF4, 0x3420003C9001FF6, 0x3450003420003C9001FF7,
    0x30000039F001FF8, 0x30100039F001FF9, 0x3000003A9001FFA, 0x3010003A9001FFB, 0x3450003A9001FFC,
    0x301000020001FFD, 0x314000020001FFE])]

/-- Symbols and enclosed letters, from U+2000 to U+33FF. -/
def symbolDecompositions : PackedTable := [
  (0x2477, [
    0x20002000, 0x20002001, 0x20002002, 0x20002003, 0x20002004, 0x20002005, 0x20002006, 0x20002007,
    0x20002008, 0x20002009, 0x2000200A, 0x2010002011, 0x333000020002017, 0x2E002024,
    0x2E00002E002025, 0x2E00002E00002E002026, 0x2000202F, 0x2032002032002033,
    0x2032002032002032002034, 0x2035002035002036, 0x2035002035002035002037, 0x2100002100203C,
    0x30500002000203E, 0x3F00003F002047, 0x2100003F002048, 0x3F000021002049,
    0x2032002032002032002032002057, 0x2000205F, 0x30002070, 0x69002071, 0x34002074, 0x35002075,
    0x36002076, 0x37002077, 0x38002078, 0x39002079, 0x2B00207A, 0x221200207B, 0x3D00207C,
    0x2800207D, 0x2900207E, 0x6E00207F, 0x30002080, 0x31002081, 0x32002082, 0x33002083, 0x34002084,
    0x35002085, 0x36002086, 0x37002087, 0x38002088, 0x39002089, 0x2B00208A, 0x221200208B,
    0x3D00208C, 0x2800208D, 0x2900208E, 0x61002090, 0x65002091, 0x6F002092, 0x78002093,
    0x259002094, 0x68002095, 0x6B002096, 0x6C002097, 0x6D002098, 0x6E002099, 0x7000209A,
    0x7300209B, 0x7400209C, 0x730000520020A8, 0x6300002F000061002100, 0x7300002F000061002101,
    0x43002102, 0x430000B0002103, 0x6F00002F000063002105, 0x7500002F000063002106, 0x190002107,
    0x460000B0002109, 0x6700210A, 0x4800210B, 0x4800210C, 0x4800210D, 0x6800210E, 0x12700210F,
    0x49002110, 0x49002111, 0x4C002112, 0x6C002113, 0x4E002115, 0x6F00004E002116, 0x50002119,
    0x5100211A, 0x5200211B, 0x5200211C, 0x5200211D, 0x4D000053002120, 0x4C000045000054002121,
    0x4D000054002122, 0x5A002124, 0x3A9002126, 0x5A002128, 0x4B00212A, 0x30A00004100212B,
    0x4200212C, 0x4300212D, 0x6500212F, 0x45002130, 0x46002131, 0x4D002133, 0x6F002134,
    0x5D0002135, 0x5D1002136, 0x5D2002137, 0x5D3002138, 0x69002139, 0x5800004100004600213B,
    0x3C000213C, 0x3B300213D, 0x39300213E, 0x3A000213F, 0x2211002140, 0x44002145, 0x64002146,
    0x65002147, 0x69002148, 0x6A002149, 0x37002044000031002150, 0x39002044000031002151,
    0x30000031002044000031002152, 0x33002044000031002153, 0x33002044000032002154,
    0x35002044000031002155, 0x35002044000032002156, 0x35002044000033002157, 0x35002044000034002158,
    0x36002044000031002159, 0x3600204400003500215A, 0x3800204400003100215B, 0x3800204400003300215C,
    0x3800204400003500215D, 0x3800204400003700215E, 0x204400003100215F, 0x49002160,
    0x49000049002161, 0x49000049000049002162, 0x56000049002163, 0x56002164, 0x49000056002165,
    0x49000049000056002166, 0x49000049000049000056002167, 0x58000049002168, 0x58002169,
    0x4900005800216A, 0x4900004900005800216B, 0x4C00216C, 0x4300216D, 0x4400216E, 0x4D00216F,
    0x69002170, 0x69000069002171, 0x69000069000069002172, 0x76000069002173, 0x76002174,
    0x69000076002175, 0x69000069000076002176, 0x69000069000069000076002177, 0x78000069002178,
    0x78002179, 0x6900007800217A, 0x6900006900007800217B, 0x6C00217C, 0x6300217D, 0x6400217E,
    0x6D00217F, 0x33002044000030002189, 0x33800219000219A, 0x33800219200219B, 0x3380021940021AE,
    0x3380021D00021CD, 0x3380021D40021CE, 0x3380021D20021CF, 0x338002203002204, 0x338002208002209,
    0x33800220B00220C, 0x338002223002224, 0x338002225002226, 0x222B00222B00222C,
    0x222B00222B00222B00222D, 0x222E00222E00222F, 0x222E00222E00222E002230, 0x33800223C002241,
    0x338002243002244, 0x338002245002247, 0x338002248002249, 0x33800003D002260, 0x338002261002262,
    0x33800224D00226D, 0x33800003C00226E, 0x33800003E00226F, 0x338002264002270, 0x338002265002271,
    0x338002272002274, 0x338002273002275, 0x338002276002278, 0x338002277002279, 0x33800227A002280,
    0x33800227B002281, 0x338002282002284, 0x338002283002285, 0x338002286002288, 0x338002287002289,
    0x3380022A20022AC, 0x3380022A80022AD, 0x3380022A90022AE, 0x3380022AB0022AF, 0x33800227C0022E0,
    0x33800227D0022E1, 0x3380022910022E2, 0x3380022920022E3, 0x3380022B20022EA, 0x3380022B30022EB,
    0x3380022B40022EC, 0x3380022B50022ED, 0x3008002329, 0x300900232A, 0x31002460, 0x32002461,
    0x33002462, 0x34002463, 0x35002464, 0x36002465, 0x37002466, 0x38002467, 0x39002468,
    0x30000031002469, 0x3100003100246A, 0x3200003100246B, 0x3300003100246C, 0x3400003100246D,
    0x3500003100246E, 0x3600003100246F, 0x37000031002470, 0x38000031002471, 0x39000031002472,
    0x30000032002473, 0x29000031000028002474, 0x29000032000028002475, 0x29000033000028002476,
    0x29000034000028002477]),
  (0x2F7C, [
    0x29000035000028002478, 0x29000036000028002479, 0x2900003700002800247A, 0x2900003800002800247B,
    0x2900003900002800247C, 0x2900003000003100002800247D, 0x2900003100003100002800247E,
    0x2900003200003100002800247F, 0x29000033000031000028002480, 0x29000034000031000028002481,
    0x29000035000031000028002482, 0x29000036000031000028002483, 0x29000037000031000028002484,
    0x29000038000031000028002485, 0x29000039000031000028002486, 0x29000030000032000028002487,
    0x2E000031002488, 0x2E000032002489, 0x2E00003300248A, 0x2E00003400248B, 0x2E00003500248C,
    0x2E00003600248D, 0x2E00003700248E, 0x2E00003800248F, 0x2E000039002490, 0x2E000030000031002491,
    0x2E000031000031002492, 0x2E000032000031002493, 0x2E000033000031002494, 0x2E000034000031002495,
    0x2E000035000031002496, 0x2E000036000031002497, 0x2E000037000031002498, 0x2E000038000031002499,
    0x2E00003900003100249A, 0x2E00003000003200249B, 0x2900006100002800249C, 0x2900006200002800249D,
    0x2900006300002800249E, 0x2900006400002800249F, 0x290000650000280024A0, 0x290000660000280024A1,
    0x290000670000280024A2, 0x290000680000280024A3, 0x290000690000280024A4, 0x2900006A0000280024A5,
    0x2900006B0000280024A6, 0x2900006C0000280024A7, 0x2900006D0000280024A8, 0x2900006E0000280024A9,
    0x2900006F0000280024AA, 0x290000700000280024AB, 0x290000710000280024AC, 0x290000720000280024AD,
    0x290000730000280024AE, 0x290000740000280024AF, 0x290000750000280024B0, 0x290000760000280024B1,
    0x290000770000280024B2, 0x290000780000280024B3, 0x290000790000280024B4, 0x2900007A0000280024B5,
    0x410024B6, 0x420024B7, 0x430024B8, 0x440024B9, 0x450024BA, 0x460024BB, 0x470024BC, 0x480024BD,
    0x490024BE, 0x4A0024BF, 0x4B0024C0, 0x4C0024C1, 0x4D0024C2, 0x4E0024C3, 0x4F0024C4, 0x500024C5,
    0x510024C6, 0x520024C7, 0x530024C8, 0x540024C9, 0x550024CA, 0x560024CB, 0x570024CC, 0x580024CD,
    0x590024CE, 0x5A0024CF, 0x610024D0, 0x620024D1, 0x630024D2, 0x640024D3, 0x650024D4, 0x660024D5,
    0x670024D6, 0x680024D7, 0x690024D8, 0x6A0024D9, 0x6B0024DA, 0x6C0024DB, 0x6D0024DC, 0x6E0024DD,
    0x6F0024DE, 0x700024DF, 0x710024E0, 0x720024E1, 0x730024E2, 0x740024E3, 0x750024E4, 0x760024E5,
    0x770024E6, 0x780024E7, 0x790024E8, 0x7A0024E9, 0x300024EA, 0x222B00222B00222B00222B002A0C,
    0x3D00003A00003A002A74, 0x3D00003D002A75, 0x3D00003D00003D002A76, 0x338002ADD002ADC,
    0x6A002C7C, 0x56002C7D, 0x2D61002D6F, 0x6BCD002E9F, 0x9F9F002EF3, 0x4E00002F00, 0x4E28002F01,
    0x4E36002F02, 0x4E3F002F03, 0x4E59002F04, 0x4E85002F05, 0x4E8C002F06, 0x4EA0002F07,
    0x4EBA002F08, 0x513F002F09, 0x5165002F0A, 0x516B002F0B, 0x5182002F0C, 0x5196002F0D,
    0x51AB002F0E, 0x51E0002F0F, 0x51F5002F10, 0x5200002F11, 0x529B002F12, 0x52F9002F13,
    0x5315002F14, 0x531A002F15, 0x5338002F16, 0x5341002F17, 0x535C002F18, 0x5369002F19,
    0x5382002F1A, 0x53B6002F1B, 0x53C8002F1C, 0x53E3002F1D, 0x56D7002F1E, 0x571F002F1F,
    0x58EB002F20, 0x5902002F21, 0x590A002F22, 0x5915002F23, 0x5927002F24, 0x5973002F25,
    0x5B50002F26, 0x5B80002F27, 0x5BF8002F28, 0x5C0F002F29, 0x5C22002F2A, 0x5C38002F2B,
    0x5C6E002F2C, 0x5C71002F2D, 0x5DDB002F2E, 0x5DE5002F2F, 0x5DF1002F30, 0x5DFE002F31,
    0x5E72002F32, 0x5E7A002F33, 0x5E7F002F34, 0x5EF4002F35, 0x5EFE002F36, 0x5F0B002F37,
    0x5F13002F38, 0x5F50002F39, 0x5F61002F3A, 0x5F73002F3B, 0x5FC3002F3C, 0x6208002F3D,
    0x6236002F3E, 0x624B002F3F, 0x652F002F40, 0x6534002F41, 0x6587002F42, 0x6597002F43,
    0x65A4002F44, 0x65B9002F45, 0x65E0002F46, 0x65E5002F47, 0x66F0002F48, 0x6708002F49,
    0x6728002F4A, 0x6B20002F4B, 0x6B62002F4C, 0x6B79002F4D, 0x6BB3002F4E, 0x6BCB002F4F,
    0x6BD4002F50, 0x6BDB002F51, 0x6C0F002F52, 0x6C14002F53, 0x6C34002F54, 0x706B002F55,
    0x722A002F56, 0x7236002F57, 0x723B002F58, 0x723F002F59, 0x7247002F5A, 0x7259002F5B,
    0x725B002F5C, 0x72AC002F5D, 0x7384002F5E, 0x7389002F5F, 0x74DC002F60, 0x74E6002F61,
    0x7518002F62, 0x751F002F63, 0x7528002F64, 0x7530002F65, 0x758B002F66, 0x7592002F67,
    0x7676002F68, 0x767D002F69, 0x76AE002F6A, 0x76BF002F6B, 0x76EE002F6C, 0x77DB002F6D,
    0x77E2002F6E, 0x77F3002F6F, 0x793A002F70, 0x79B8002F71, 0x79BE002F72, 0x7A74002F73,
    0x7ACB002F74, 0x7AF9002F75, 0x7C73002F76, 0x7CF8002F77, 0x7F36002F78, 0x7F51002F79,
    0x7F8A002F7A, 0x7FBD002F7B, 0x8001002F7C]),
  (0x318E, [
    0x800C002F7D, 0x8012002F7E, 0x8033002F7F, 0x807F002F80, 0x8089002F81, 0x81E3002F82,
    0x81EA002F83, 0x81F3002F84, 0x81FC002F85, 0x820C002F86, 0x821B002F87, 0x821F002F88,
    0x826E002F89, 0x8272002F8A, 0x8278002F8B, 0x864D002F8C, 0x866B002F8D, 0x8840002F8E,
    0x884C002F8F, 0x8863002F90, 0x897E002F91, 0x898B002F92, 0x89D2002F93, 0x8A00002F94,
    0x8C37002F95, 0x8C46002F96, 0x8C55002F97, 0x8C78002F98, 0x8C9D002F99, 0x8D64002F9A,
    0x8D70002F9B, 0x8DB3002F9C, 0x8EAB002F9D, 0x8ECA002F9E, 0x8F9B002F9F, 0x8FB0002FA0,
    0x8FB5002FA1, 0x9091002FA2, 0x9149002FA3, 0x91C6002FA4, 0x91CC002FA5, 0x91D1002FA6,
    0x9577002FA7, 0x9580002FA8, 0x961C002FA9, 0x96B6002FAA, 0x96B9002FAB, 0x96E8002FAC,
    0x9751002FAD, 0x975E002FAE, 0x9762002FAF, 0x9769002FB0, 0x97CB002FB1, 0x97ED002FB2,
    0x97F3002FB3, 0x9801002FB4, 0x98A8002FB5, 0x98DB002FB6, 0x98DF002FB7, 0x9996002FB8,
    0x9999002FB9, 0x99AC002FBA, 0x9AA8002FBB, 0x9AD8002FBC, 0x9ADF002FBD, 0x9B25002FBE,
    0x9B2F002FBF, 0x9B32002FC0, 0x9B3C002FC1, 0x9B5A002FC2, 0x9CE5002FC3, 0x9E75002FC4,
    0x9E7F002FC5, 0x9EA5002FC6, 0x9EBB002FC7, 0x9EC3002FC8, 0x9ECD002FC9, 0x9ED1002FCA,
    0x9EF9002FCB, 0x9EFD002FCC, 0x9F0E002FCD, 0x9F13002FCE, 0x9F20002FCF, 0x9F3B002FD0,
    0x9F4A002FD1, 0x9F52002FD2, 0x9F8D002FD3, 0x9F9C002FD4, 0x9FA0002FD5, 0x20003000, 0x3012003036,
    0x5341003038, 0x5344003039, 0x534500303A, 0x309900304B00304C, 0x309900304D00304E,
    0x309900304F003050, 0x3099003051003052, 0x3099003053003054, 0x3099003055003056,
    0x3099003057003058, 0x309900305900305A, 0x309900305B00305C, 0x309900305D00305E,
    0x309900305F003060, 0x3099003061003062, 0x3099003064003065, 0x3099003066003067,
    0x3099003068003069, 0x309900306F003070, 0x309A00306F003071, 0x3099003072003073,
    0x309A003072003074, 0x3099003075003076, 0x309A003075003077, 0x3099003078003079,
    0x309A00307800307A, 0x309900307B00307C, 0x309A00307B00307D, 0x3099003046003094,
    0x309900002000309B, 0x309A00002000309C, 0x309900309D00309E, 0x308A00308800309F,
    0x30990030AB0030AC, 0x30990030AD0030AE, 0x30990030AF0030B0, 0x30990030B10030B2,
    0x30990030B30030B4, 0x30990030B50030B6, 0x30990030B70030B8, 0x30990030B90030BA,
    0x30990030BB0030BC, 0x30990030BD0030BE, 0x30990030BF0030C0, 0x30990030C10030C2,
    0x30990030C40030C5, 0x30990030C60030C7, 0x30990030C80030C9, 0x30990030CF0030D0,
    0x309A0030CF0030D1, 0x30990030D20030D3, 0x309A0030D20030D4, 0x30990030D50030D6,
    0x309A0030D50030D7, 0x30990030D80030D9, 0x309A0030D80030DA, 0x30990030DB0030DC,
    0x309A0030DB0030DD, 0x30990030A60030F4, 0x30990030EF0030F7, 0x30990030F00030F8,
    0x30990030F10030F9, 0x30990030F20030FA, 0x30990030FD0030FE, 0x30C80030B30030FF, 0x1100003131,
    0x1101003132, 0x11AA003133, 0x1102003134, 0x11AC003135, 0x11AD003136, 0x1103003137,
    0x1104003138, 0x1105003139, 0x11B000313A, 0x11B100313B, 0x11B200313C, 0x11B300313D,
    0x11B400313E, 0x11B500313F, 0x111A003140, 0x1106003141, 0x1107003142, 0x1108003143,
    0x1121003144, 0x1109003145, 0x110A003146, 0x110B003147, 0x110C003148, 0x110D003149,
    0x110E00314A, 0x110F00314B, 0x111000314C, 0x111100314D, 0x111200314E, 0x116100314F,
    0x1162003150, 0x1163003151, 0x1164003152, 0x1165003153, 0x1166003154, 0x1167003155,
    0x1168003156, 0x1169003157, 0x116A003158, 0x116B003159, 0x116C00315A, 0x116D00315B,
    0x116E00315C, 0x116F00315D, 0x117000315E, 0x117100315F, 0x1172003160, 0x1173003161,
    0x1174003162, 0x1175003163, 0x1160003164, 0x1114003165, 0x1115003166, 0x11C7003167,
    0x11C8003168, 0x11CC003169, 0x11CE00316A, 0x11D300316B, 0x11D700316C, 0x11D900316D,
    0x111C00316E, 0x11DD00316F, 0x11DF003170, 0x111D003171, 0x111E003172, 0x1120003173,
    0x1122003174, 0x1123003175, 0x1127003176, 0x1129003177, 0x112B003178, 0x112C003179,
    0x112D00317A, 0x112E00317B, 0x112F00317C, 0x113200317D, 0x113600317E, 0x114000317F,
    0x1147003180, 0x114C003181, 0x11F1003182, 0x11F2003183, 0x1157003184, 0x1158003185,
    0x1159003186, 0x1184003187, 0x1185003188, 0x1188003189, 0x119100318A, 0x119200318B,
    0x119400318C, 0x119E00318D, 0x11A100318E]),
  (0x32F5, [
    0x4E00003192, 0x4E8C003193, 0x4E09003194, 0x56DB003195, 0x4E0A003196, 0x4E2D003197,
    0x4E0B003198, 0x7532003199, 0x4E5900319A, 0x4E1900319B, 0x4E0100319C, 0x592900319D,
    0x573000319E, 0x4EBA00319F, 0x29001100000028003200, 0x29001102000028003201,
    0x29001103000028003202, 0x29001105000028003203, 0x29001106000028003204, 0x29001107000028003205,
    0x29001109000028003206, 0x2900110B000028003207, 0x2900110C000028003208, 0x2900110E000028003209,
    0x2900110F00002800320A, 0x2900111000002800320B, 0x2900111100002800320C, 0x2900111200002800320D,
    0x2900116100110000002800320E, 0x2900116100110200002800320F, 0x29001161001103000028003210,
    0x29001161001105000028003211, 0x29001161001106000028003212, 0x29001161001107000028003213,
    0x29001161001109000028003214, 0x2900116100110B000028003215, 0x2900116100110C000028003216,
    0x2900116100110E000028003217, 0x2900116100110F000028003218, 0x29001161001110000028003219,
    0x2900116100111100002800321A, 0x2900116100111200002800321B, 0x2900116E00110C00002800321C,
    0x290011AB00116500110C00116900110B00002800321D, 0x2900116E00111200116900110B00002800321E,
    0x29004E00000028003220, 0x29004E8C000028003221, 0x29004E09000028003222, 0x290056DB000028003223,
    0x29004E94000028003224, 0x2900516D000028003225, 0x29004E03000028003226, 0x2900516B000028003227,
    0x29004E5D000028003228, 0x29005341000028003229, 0x2900670800002800322A, 0x2900706B00002800322B,
    0x29006C3400002800322C, 0x2900672800002800322D, 0x290091D100002800322E, 0x2900571F00002800322F,
    0x290065E5000028003230, 0x2900682A000028003231, 0x29006709000028003232, 0x2900793E000028003233,
    0x2900540D000028003234, 0x29007279000028003235, 0x29008CA1000028003236, 0x2900795D000028003237,
    0x290052B4000028003238, 0x29004EE3000028003239, 0x2900547C00002800323A, 0x29005B6600002800323B,
    0x290076E300002800323C, 0x29004F0100002800323D, 0x29008CC700002800323E, 0x2900535400002800323F,
    0x2900796D000028003240, 0x29004F11000028003241, 0x290081EA000028003242, 0x290081F3000028003243,
    0x554F003244, 0x5E7C003245, 0x6587003246, 0x7B8F003247, 0x45000054000050003250,
    0x31000032003251, 0x32000032003252, 0x33000032003253, 0x34000032003254, 0x35000032003255,
    0x36000032003256, 0x37000032003257, 0x38000032003258, 0x39000032003259, 0x3000003300325A,
    0x3100003300325B, 0x3200003300325C, 0x3300003300325D, 0x3400003300325E, 0x3500003300325F,
    0x1100003260, 0x1102003261, 0x1103003262, 0x1105003263, 0x1106003264, 0x1107003265,
    0x1109003266, 0x110B003267, 0x110C003268, 0x110E003269, 0x110F00326A, 0x111000326B,
    0x111100326C, 0x111200326D, 0x116100110000326E, 0x116100110200326F, 0x1161001103003270,
    0x1161001105003271, 0x1161001106003272, 0x1161001107003273, 0x1161001109003274,
    0x116100110B003275, 0x116100110C003276, 0x116100110E003277, 0x116100110F003278,
    0x1161001110003279, 0x116100111100327A, 0x116100111200327B,
    0x11690011000011B700116100110E00327C, 0x117400110B00116E00110C00327D, 0x116E00110B00327E,
    0x4E00003280, 0x4E8C003281, 0x4E09003282, 0x56DB003283, 0x4E94003284, 0x516D003285,
    0x4E03003286, 0x516B003287, 0x4E5D003288, 0x5341003289, 0x670800328A, 0x706B00328B,
    0x6C3400328C, 0x672800328D, 0x91D100328E, 0x571F00328F, 0x65E5003290, 0x682A003291,
    0x6709003292, 0x793E003293, 0x540D003294, 0x7279003295, 0x8CA1003296, 0x795D003297,
    0x52B4003298, 0x79D8003299, 0x753700329A, 0x597300329B, 0x906900329C, 0x512A00329D,
    0x537000329E, 0x6CE800329F, 0x98050032A0, 0x4F110032A1, 0x51990032A2, 0x6B630032A3,
    0x4E0A0032A4, 0x4E2D0032A5, 0x4E0B0032A6, 0x5DE60032A7, 0x53F30032A8, 0x533B0032A9,
    0x5B970032AA, 0x5B660032AB, 0x76E30032AC, 0x4F010032AD, 0x8CC70032AE, 0x53540032AF,
    0x591C0032B0, 0x360000330032B1, 0x370000330032B2, 0x380000330032B3, 0x390000330032B4,
    0x300000340032B5, 0x310000340032B6, 0x320000340032B7, 0x330000340032B8, 0x340000340032B9,
    0x350000340032BA, 0x360000340032BB, 0x370000340032BC, 0x380000340032BD, 0x390000340032BE,
    0x300000350032BF, 0x67080000310032C0, 0x67080000320032C1, 0x67080000330032C2,
    0x67080000340032C3, 0x67080000350032C4, 0x67080000360032C5, 0x67080000370032C6,
    0x67080000380032C7, 0x67080000390032C8, 0x67080000300000310032C9, 0x67080000310000310032CA,
    0x67080000320000310032CB, 0x670000480032CC, 0x670000720000650032CD, 0x560000650032CE,
    0x4400005400004C0032CF, 0x30A20032D0, 0x30A40032D1, 0x30A60032D2, 0x30A80032D3, 0x30AA0032D4,
    0x30AB0032D5, 0x30AD0032D6, 0x30AF0032D7, 0x30B10032D8, 0x30B30032D9, 0x30B50032DA,
    0x30B70032DB, 0x30B90032DC, 0x30BB0032DD, 0x30BD0032DE, 0x30BF0032DF, 0x30C10032E0,
    0x30C40032E1, 0x30C60032E2, 0x30C80032E3, 0x30CA0032E4, 0x30CB0032E5, 0x30CC0032E6,
    0x30CD0032E7, 0x30CE0032E8, 0x30CF0032E9, 0x30D20032EA, 0x30D50032EB, 0x30D80032EC,
    0x30DB0032ED, 0x30DE0032EE, 0x30DF0032EF, 0x30E00032F0, 0x30E10032F1, 0x30E20032F2,
    0x30E40032F3, 0x30E60032F4, 0x30E80032F5]),
  (0x33EF, [
    0x30E90032F6, 0x30EA0032F7, 0x30EB0032F8, 0x30EC0032F9, 0x30ED0032FA, 0x30EF0032FB,
    0x30F00032FC, 0x30F10032FD, 0x30F20032FE, 0x548C004EE40032FF,
    0x30C80030FC00309A0030CF0030A2003300, 0x30A10030D50030EB0030A2003301,
    0x30A200309A0030D80030F30030A2003302, 0x30EB0030FC0030A2003303,
    0x30990030AF0030F30030CB0030A4003304, 0x30C10030F30030A4003305, 0x30F30030A90030A6003306,
    0x30990030C80030FC0030AF0030B90030A8003307, 0x30FC0030AB0030FC0030A8003308,
    0x30B90030F30030AA003309, 0x30E00030FC0030AA00330A, 0x30EA0030A40030AB00330B,
    0x30C80030C30030E90030AB00330C, 0x30FC0030EA0030ED0030AB00330D, 0x30F30030ED0030990030AB00330E,
    0x30DE0030F30030990030AB00330F, 0x30990030AB0030990030AD003310, 0x30FC0030CB0030990030AD003311,
    0x30FC0030EA0030E50030AD003312, 0x30FC0030990030BF0030EB0030990030AD003313, 0x30ED0030AD003314,
    0x30E00030E90030990030AF0030ED0030AD003315, 0x30EB0030C80030FC0030E10030ED0030AD003316,
    0x30C80030C30030EF0030ED0030AD003317, 0x30E00030E90030990030AF003318,
    0x30F30030C80030E00030E90030990030AF003319, 0x30ED0030A40030990030BB0030EB0030AF00331A,
    0x30CD0030FC0030ED0030AF00331B, 0x30B90030FC0030B100331C, 0x30CA0030EB0030B300331D,
    0x309A0030DB0030FC0030B300331E, 0x30EB0030AF0030A40030B500331F,
    0x30E00030FC0030C10030F30030B5003320, 0x30990030AF0030F30030EA0030B7003321,
    0x30C10030F30030BB003322, 0x30C80030F30030BB003323, 0x30B90030FC0030990030BF003324,
    0x30B70030990030C6003325, 0x30EB0030990030C8003326, 0x30F30030C8003327, 0x30CE0030CA003328,
    0x30C80030C30030CE003329, 0x30C40030A40030CF00332A, 0x30C80030F30030BB0030FC00309A0030CF00332B,
    0x30C40030FC00309A0030CF00332C, 0x30EB0030EC0030FC0030990030CF00332D,
    0x30EB0030C80030B90030A200309A0030D200332E, 0x30EB0030AF00309A0030D200332F,
    0x30B300309A0030D2003330, 0x30EB0030990030D2003331, 0x30990030C80030C30030E90030A10030D5003332,
    0x30C80030FC0030A30030D5003333, 0x30EB0030A70030B70030C30030990030D5003334,
    0x30F30030E90030D5003335, 0x30EB0030FC0030BF0030AF0030D8003336, 0x30BD00309A0030D8003337,
    0x30D20030CB00309A0030D8003338, 0x30C40030EB0030D8003339, 0x30B90030F300309A0030D800333A,
    0x30990030B70030FC00309A0030D800333B, 0x30BF0030FC0030990030D800333C,
    0x30C80030F30030A400309A0030DB00333D, 0x30C80030EB0030990030DB00333E, 0x30F30030DB00333F,
    0x30990030C80030F300309A0030DB003340, 0x30EB0030FC0030DB003341, 0x30F30030FC0030DB003342,
    0x30ED0030AF0030A40030DE003343, 0x30EB0030A40030DE003344, 0x30CF0030C30030DE003345,
    0x30AF0030EB0030DE003346, 0x30F30030E70030B70030F30030DE003347, 0x30F30030ED0030AF0030DF003348,
    0x30EA0030DF003349, 0x30EB0030FC0030990030CF0030EA0030DF00334A, 0x30990030AB0030E100334B,
    0x30F30030C80030990030AB0030E100334C, 0x30EB0030C80030FC0030E100334D,
    0x30990030C80030FC0030E400334E, 0x30EB0030FC0030E400334F, 0x30F30030A20030E6003350,
    0x30EB0030C80030C30030EA003351, 0x30E90030EA003352, 0x30FC00309A0030D20030EB003353,
    0x30EB0030990030D50030FC0030EB003354, 0x30E00030EC003355,
    0x30F30030990030B10030C80030F30030EC003356, 0x30C80030C30030EF003357, 0x70B9000030003358,
    0x70B9000031003359, 0x70B900003200335A, 0x70B900003300335B, 0x70B900003400335C,
    0x70B900003500335D, 0x70B900003600335E, 0x70B900003700335F, 0x70B9000038003360,
    0x70B9000039003361, 0x70B9000030000031003362, 0x70B9000031000031003363,
    0x70B9000032000031003364, 0x70B9000033000031003365, 0x70B9000034000031003366,
    0x70B9000035000031003367, 0x70B9000036000031003368, 0x70B9000037000031003369,
    0x70B900003800003100336A, 0x70B900003900003100336B, 0x70B900003000003200336C,
    0x70B900003100003200336D, 0x70B900003200003200336E, 0x70B900003300003200336F,
    0x70B9000034000032003370, 0x61000050000068003371, 0x61000064003372, 0x55000041003373,
    0x72000061000062003374, 0x5600006F003375, 0x63000070003376, 0x6D000064003377,
    0x3200006D000064003378, 0x3300006D000064003379, 0x5500004900337A, 0x6210005E7300337B,
    0x548C00662D00337C, 0x6B6300592700337D, 0x6CBB00660E00337E, 0x793E004F1A005F0F00682A00337F,
    0x41000070003380, 0x4100006E003381, 0x410003BC003382, 0x4100006D003383, 0x4100006B003384,
    0x4200004B003385, 0x4200004D003386, 0x42000047003387, 0x6C000061000063003388,
    0x6C00006100006300006B003389, 0x4600007000338A, 0x4600006E00338B, 0x460003BC00338C,
    0x670003BC00338D, 0x6700006D00338E, 0x6700006B00338F, 0x7A000048003390, 0x7A00004800006B003391,
    0x7A00004800004D003392, 0x7A000048000047003393, 0x7A000048000054003394, 0x6C0003BC003395,
    0x6C00006D003396, 0x6C000064003397, 0x6C00006B003398, 0x6D000066003399, 0x6D00006E00339A,
    0x6D0003BC00339B, 0x6D00006D00339C, 0x6D00006300339D, 0x6D00006B00339E, 0x3200006D00006D00339F,
    0x3200006D0000630033A0, 0x3200006D0033A1, 0x3200006D00006B0033A2, 0x3300006D00006D0033A3,
    0x3300006D0000630033A4, 0x3300006D0033A5, 0x3300006D00006B0033A6, 0x7300221500006D0033A7,
    0x3200007300221500006D0033A8, 0x610000500033A9, 0x6100005000006B0033AA, 0x6100005000004D0033AB,
    0x610000500000470033AC, 0x640000610000720033AD, 0x730022150000640000610000720033AE,
    0x320000730022150000640000610000720033AF, 0x730000700033B0, 0x7300006E0033B1, 0x730003BC0033B2,
    0x7300006D0033B3, 0x560000700033B4, 0x5600006E0033B5, 0x560003BC0033B6, 0x5600006D0033B7,
    0x5600006B0033B8, 0x5600004D0033B9, 0x570000700033BA, 0x5700006E0033BB, 0x570003BC0033BC,
    0x5700006D0033BD, 0x5700006B0033BE, 0x5700004D0033BF, 0x3A900006B0033C0, 0x3A900004D0033C1,
    0x2E00006D00002E0000610033C2, 0x710000420033C3, 0x630000630033C4, 0x640000630033C5,
    0x6700006B0022150000430033C6, 0x2E00006F0000430033C7, 0x420000640033C8, 0x790000470033C9,
    0x610000680033CA, 0x500000480033CB, 0x6E0000690033CC, 0x4B00004B0033CD, 0x4D00004B0033CE,
    0x7400006B0033CF, 0x6D00006C0033D0, 0x6E00006C0033D1, 0x6700006F00006C0033D2, 0x7800006C0033D3,
    0x6200006D0033D4, 0x6C00006900006D0033D5, 0x6C00006F00006D0033D6, 0x480000500033D7,
    0x2E00006D00002E0000700033D8, 0x4D0000500000500033D9, 0x520000500033DA, 0x720000730033DB,
    0x760000530033DC, 0x620000570033DD, 0x6D0022150000560033DE, 0x6D0022150000410033DF,
    0x65E50000310033E0, 0x65E50000320033E1, 0x65E50000330033E2, 0x65E50000340033E3,
    0x65E50000350033E4, 0x65E50000360033E5, 0x65E50000370033E6, 0x65E50000380033E7,
    0x65E50000390033E8, 0x65E50000300000310033E9, 0x65E50000310000310033EA,
    0x65E50000320000310033EB, 0x65E50000330000310033EC, 0x65E50000340000310033ED,
    0x65E50000350000310033EE, 0x65E50000360000310033EF]),
  (0x33FF, [
    0x65E50000370000310033F0, 0x65E50000380000310033F1, 0x65E50000390000310033F2,
    0x65E50000300000320033F3, 0x65E50000310000320033F4, 0x65E50000320000320033F5,
    0x65E50000330000320033F6, 0x65E50000340000320033F7, 0x65E50000350000320033F8,
    0x65E50000360000320033F9, 0x65E50000370000320033FA, 0x65E50000380000320033FB,
    0x65E50000390000320033FC, 0x65E50000300000330033FD, 0x65E50000310000330033FE,
    0x6C0000610000670033FF])]

/-- Compatibility ideographs of the basic plane and what precedes them, from U+3400 to U+FAFF. -/
def ideographDecompositions : PackedTable := [
  (0xF9EC, [
    0x44A00A69C, 0x44C00A69D, 0xA76F00A770, 0x4300A7F2, 0x4600A7F3, 0x5100A7F4, 0x12600A7F8,
    0x15300A7F9, 0xA72700AB5C, 0xAB3700AB5D, 0x26B00AB5E, 0xAB5200AB5F, 0x28D00AB69, 0x8C4800F900,
    0x66F400F901, 0x8ECA00F902, 0x8CC800F903, 0x6ED100F904, 0x4E3200F905, 0x53E500F906,
    0x9F9C00F907, 0x9F9C00F908, 0x595100F909, 0x91D100F90A, 0x558700F90B, 0x594800F90C,
    0x61F600F90D, 0x766900F90E, 0x7F8500F90F, 0x863F00F910, 0x87BA00F911, 0x88F800F912,
    0x908F00F913, 0x6A0200F914, 0x6D1B00F915, 0x70D900F916, 0x73DE00F917, 0x843D00F918,
    0x916A00F919, 0x99F100F91A, 0x4E8200F91B, 0x537500F91C, 0x6B0400F91D, 0x721B00F91E,
    0x862D00F91F, 0x9E1E00F920, 0x5D5000F921, 0x6FEB00F922, 0x85CD00F923, 0x896400F924,
    0x62C900F925, 0x81D800F926, 0x881F00F927, 0x5ECA00F928, 0x671700F929, 0x6D6A00F92A,
    0x72FC00F92B, 0x90CE00F92C, 0x4F8600F92D, 0x51B700F92E, 0x52DE00F92F, 0x64C400F930,
    0x6AD300F931, 0x721000F932, 0x76E700F933, 0x800100F934, 0x860600F935, 0x865C00F936,
    0x8DEF00F937, 0x973200F938, 0x9B6F00F939, 0x9DFA00F93A, 0x788C00F93B, 0x797F00F93C,
    0x7DA000F93D, 0x83C900F93E, 0x930400F93F, 0x9E7F00F940, 0x8AD600F941, 0x58DF00F942,
    0x5F0400F943, 0x7C6000F944, 0x807E00F945, 0x726200F946, 0x78CA00F947, 0x8CC200F948,
    0x96F700F949, 0x58D800F94A, 0x5C6200F94B, 0x6A1300F94C, 0x6DDA00F94D, 0x6F0F00F94E,
    0x7D2F00F94F, 0x7E3700F950, 0x964B00F951, 0x52D200F952, 0x808B00F953, 0x51DC00F954,
    0x51CC00F955, 0x7A1C00F956, 0x7DBE00F957, 0x83F100F958, 0x967500F959, 0x8B8000F95A,
    0x62CF00F95B, 0x6A0200F95C, 0x8AFE00F95D, 0x4E3900F95E, 0x5BE700F95F, 0x601200F960,
    0x738700F961, 0x757000F962, 0x531700F963, 0x78FB00F964, 0x4FBF00F965, 0x5FA900F966,
    0x4E0D00F967, 0x6CCC00F968, 0x657800F969, 0x7D2200F96A, 0x53C300F96B, 0x585E00F96C,
    0x770100F96D, 0x844900F96E, 0x8AAA00F96F, 0x6BBA00F970, 0x8FB000F971, 0x6C8800F972,
    0x62FE00F973, 0x82E500F974, 0x63A000F975, 0x756500F976, 0x4EAE00F977, 0x516900F978,
    0x51C900F979, 0x688100F97A, 0x7CE700F97B, 0x826F00F97C, 0x8AD200F97D, 0x91CF00F97E,
    0x52F500F97F, 0x544200F980, 0x597300F981, 0x5EEC00F982, 0x65C500F983, 0x6FFE00F984,
    0x792A00F985, 0x95AD00F986, 0x9A6A00F987, 0x9E9700F988, 0x9ECE00F989, 0x529B00F98A,
    0x66C600F98B, 0x6B7700F98C, 0x8F6200F98D, 0x5E7400F98E, 0x619000F98F, 0x620000F990,
    0x649A00F991, 0x6F2300F992, 0x714900F993, 0x748900F994, 0x79CA00F995, 0x7DF400F996,
    0x806F00F997, 0x8F2600F998, 0x84EE00F999, 0x902300F99A, 0x934A00F99B, 0x521700F99C,
    0x52A300F99D, 0x54BD00F99E, 0x70C800F99F, 0x88C200F9A0, 0x8AAA00F9A1, 0x5EC900F9A2,
    0x5FF500F9A3, 0x637B00F9A4, 0x6BAE00F9A5, 0x7C3E00F9A6, 0x737500F9A7, 0x4EE400F9A8,
    0x56F900F9A9, 0x5BE700F9AA, 0x5DBA00F9AB, 0x601C00F9AC, 0x73B200F9AD, 0x746900F9AE,
    0x7F9A00F9AF, 0x804600F9B0, 0x923400F9B1, 0x96F600F9B2, 0x974800F9B3, 0x981800F9B4,
    0x4F8B00F9B5, 0x79AE00F9B6, 0x91B400F9B7, 0x96B800F9B8, 0x60E100F9B9, 0x4E8600F9BA,
    0x50DA00F9BB, 0x5BEE00F9BC, 0x5C3F00F9BD, 0x659900F9BE, 0x6A0200F9BF, 0x71CE00F9C0,
    0x764200F9C1, 0x84FC00F9C2, 0x907C00F9C3, 0x9F8D00F9C4, 0x668800F9C5, 0x962E00F9C6,
    0x528900F9C7, 0x677B00F9C8, 0x67F300F9C9, 0x6D4100F9CA, 0x6E9C00F9CB, 0x740900F9CC,
    0x755900F9CD, 0x786B00F9CE, 0x7D1000F9CF, 0x985E00F9D0, 0x516D00F9D1, 0x622E00F9D2,
    0x967800F9D3, 0x502B00F9D4, 0x5D1900F9D5, 0x6DEA00F9D6, 0x8F2A00F9D7, 0x5F8B00F9D8,
    0x614400F9D9, 0x681700F9DA, 0x738700F9DB, 0x968600F9DC, 0x522900F9DD, 0x540F00F9DE,
    0x5C6500F9DF, 0x661300F9E0, 0x674E00F9E1, 0x68A800F9E2, 0x6CE500F9E3, 0x740600F9E4,
    0x75E200F9E5, 0x7F7900F9E6, 0x88CF00F9E7, 0x88E100F9E8, 0x91CC00F9E9, 0x96E200F9EA,
    0x533F00F9EB, 0x6EBA00F9EC]),
  (0xFAD9, [
    0x541D00F9ED, 0x71D000F9EE, 0x749800F9EF, 0x85FA00F9F0, 0x96A300F9F1, 0x9C5700F9F2,
    0x9E9F00F9F3, 0x679700F9F4, 0x6DCB00F9F5, 0x81E800F9F6, 0x7ACB00F9F7, 0x7B2000F9F8,
    0x7C9200F9F9, 0x72C000F9FA, 0x709900F9FB, 0x8B5800F9FC, 0x4EC000F9FD, 0x833600F9FE,
    0x523A00F9FF, 0x520700FA00, 0x5EA600FA01, 0x62D300FA02, 0x7CD600FA03, 0x5B8500FA04,
    0x6D1E00FA05, 0x66B400FA06, 0x8F3B00FA07, 0x884C00FA08, 0x964D00FA09, 0x898B00FA0A,
    0x5ED300FA0B, 0x514000FA0C, 0x55C000FA0D, 0x585A00FA10, 0x667400FA12, 0x51DE00FA15,
    0x732A00FA16, 0x76CA00FA17, 0x793C00FA18, 0x795E00FA19, 0x796500FA1A, 0x798F00FA1B,
    0x975600FA1C, 0x7CBE00FA1D, 0x7FBD00FA1E, 0x861200FA20, 0x8AF800FA22, 0x903800FA25,
    0x90FD00FA26, 0x98EF00FA2A, 0x98FC00FA2B, 0x992800FA2C, 0x9DB400FA2D, 0x90DE00FA2E,
    0x96B700FA2F, 0x4FAE00FA30, 0x50E700FA31, 0x514D00FA32, 0x52C900FA33, 0x52E400FA34,
    0x535100FA35, 0x559D00FA36, 0x560600FA37, 0x566800FA38, 0x584000FA39, 0x58A800FA3A,
    0x5C6400FA3B, 0x5C6E00FA3C, 0x609400FA3D, 0x616800FA3E, 0x618E00FA3F, 0x61F200FA40,
    0x654F00FA41, 0x65E200FA42, 0x669100FA43, 0x688500FA44, 0x6D7700FA45, 0x6E1A00FA46,
    0x6F2200FA47, 0x716E00FA48, 0x722B00FA49, 0x742200FA4A, 0x789100FA4B, 0x793E00FA4C,
    0x794900FA4D, 0x794800FA4E, 0x795000FA4F, 0x795600FA50, 0x795D00FA51, 0x798D00FA52,
    0x798E00FA53, 0x7A4000FA54, 0x7A8100FA55, 0x7BC000FA56, 0x7DF400FA57, 0x7E0900FA58,
    0x7E4100FA59, 0x7F7200FA5A, 0x800500FA5B, 0x81ED00FA5C, 0x827900FA5D, 0x827900FA5E,
    0x845700FA5F, 0x891000FA60, 0x899600FA61, 0x8B0100FA62, 0x8B3900FA63, 0x8CD300FA64,
    0x8D0800FA65, 0x8FB600FA66, 0x903800FA67, 0x96E300FA68, 0x97FF00FA69, 0x983B00FA6A,
    0x607500FA6B, 0x242EE00FA6C, 0x821800FA6D, 0x4E2600FA70, 0x51B500FA71, 0x516800FA72,
    0x4F8000FA73, 0x514500FA74, 0x518000FA75, 0x52C700FA76, 0x52FA00FA77, 0x559D00FA78,
    0x555500FA79, 0x559900FA7A, 0x55E200FA7B, 0x585A00FA7C, 0x58B300FA7D, 0x594400FA7E,
    0x595400FA7F, 0x5A6200FA80, 0x5B2800FA81, 0x5ED200FA82, 0x5ED900FA83, 0x5F6900FA84,
    0x5FAD00FA85, 0x60D800FA86, 0x614E00FA87, 0x610800FA88, 0x618E00FA89, 0x616000FA8A,
    0x61F200FA8B, 0x623400FA8C, 0x63C400FA8D, 0x641C00FA8E, 0x645200FA8F, 0x655600FA90,
    0x667400FA91, 0x671700FA92, 0x671B00FA93, 0x675600FA94, 0x6B7900FA95, 0x6BBA00FA96,
    0x6D4100FA97, 0x6EDB00FA98, 0x6ECB00FA99, 0x6F2200FA9A, 0x701E00FA9B, 0x716E00FA9C,
    0x77A700FA9D, 0x723500FA9E, 0x72AF00FA9F, 0x732A00FAA0, 0x747100FAA1, 0x750600FAA2,
    0x753B00FAA3, 0x761D00FAA4, 0x761F00FAA5, 0x76CA00FAA6, 0x76DB00FAA7, 0x76F400FAA8,
    0x774A00FAA9, 0x774000FAAA, 0x78CC00FAAB, 0x7AB100FAAC, 0x7BC000FAAD, 0x7C7B00FAAE,
    0x7D5B00FAAF, 0x7DF400FAB0, 0x7F3E00FAB1, 0x800500FAB2, 0x835200FAB3, 0x83EF00FAB4,
    0x877900FAB5, 0x894100FAB6, 0x898600FAB7, 0x899600FAB8, 0x8ABF00FAB9, 0x8AF800FABA,
    0x8ACB00FABB, 0x8B0100FABC, 0x8AFE00FABD, 0x8AED00FABE, 0x8B3900FABF, 0x8B8A00FAC0,
    0x8D0800FAC1, 0x8F3800FAC2, 0x907200FAC3, 0x919900FAC4, 0x927600FAC5, 0x967C00FAC6,
    0x96E300FAC7, 0x975600FAC8, 0x97DB00FAC9, 0x97FF00FACA, 0x980B00FACB, 0x983B00FACC,
    0x9B1200FACD, 0x9F9C00FACE, 0x2284A00FACF, 0x2284400FAD0, 0x233D500FAD1, 0x3B9D00FAD2,
    0x401800FAD3, 0x403900FAD4, 0x2524900FAD5, 0x25CD000FAD6, 0x27ED300FAD7, 0x9F4300FAD8,
    0x9F8E00FAD9])]

/-- Presentation forms, from U+FB00 to U+FFFF. -/
def formDecompositions : PackedTable := [
  (0xFC31, [
    0x6600006600FB00, 0x6900006600FB01, 0x6C00006600FB02, 0x6900006600006600FB03,
    0x6C00006600006600FB04, 0x7400007300FB05, 0x7400007300FB06, 0x57600057400FB13,
    0x56500057400FB14, 0x56B00057400FB15, 0x57600057E00FB16, 0x56D00057400FB17, 0x5B40005D900FB1D,
    0x5B70005F200FB1F, 0x5E200FB20, 0x5D000FB21, 0x5D300FB22, 0x5D400FB23, 0x5DB00FB24,
    0x5DC00FB25, 0x5DD00FB26, 0x5E800FB27, 0x5EA00FB28, 0x2B00FB29, 0x5C10005E900FB2A,
    0x5C20005E900FB2B, 0x5C10005BC0005E900FB2C, 0x5C20005BC0005E900FB2D, 0x5B70005D000FB2E,
    0x5B80005D000FB2F, 0x5BC0005D000FB30, 0x5BC0005D100FB31, 0x5BC0005D200FB32, 0x5BC0005D300FB33,
    0x5BC0005D400FB34, 0x5BC0005D500FB35, 0x5BC0005D600FB36, 0x5BC0005D800FB38, 0x5BC0005D900FB39,
    0x5BC0005DA00FB3A, 0x5BC0005DB00FB3B, 0x5BC0005DC00FB3C, 0x5BC0005DE00FB3E, 0x5BC0005E000FB40,
    0x5BC0005E100FB41, 0x5BC0005E300FB43, 0x5BC0005E400FB44, 0x5BC0005E600FB46, 0x5BC0005E700FB47,
    0x5BC0005E800FB48, 0x5BC0005E900FB49, 0x5BC0005EA00FB4A, 0x5B90005D500FB4B, 0x5BF0005D100FB4C,
    0x5BF0005DB00FB4D, 0x5BF0005E400FB4E, 0x5DC0005D000FB4F, 0x67100FB50, 0x67100FB51, 0x67B00FB52,
    0x67B00FB53, 0x67B00FB54, 0x67B00FB55, 0x67E00FB56, 0x67E00FB57, 0x67E00FB58, 0x67E00FB59,
    0x68000FB5A, 0x68000FB5B, 0x68000FB5C, 0x68000FB5D, 0x67A00FB5E, 0x67A00FB5F, 0x67A00FB60,
    0x67A00FB61, 0x67F00FB62, 0x67F00FB63, 0x67F00FB64, 0x67F00FB65, 0x67900FB66, 0x67900FB67,
    0x67900FB68, 0x67900FB69, 0x6A400FB6A, 0x6A400FB6B, 0x6A400FB6C, 0x6A400FB6D, 0x6A600FB6E,
    0x6A600FB6F, 0x6A600FB70, 0x6A600FB71, 0x68400FB72, 0x68400FB73, 0x68400FB74, 0x68400FB75,
    0x68300FB76, 0x68300FB77, 0x68300FB78, 0x68300FB79, 0x68600FB7A, 0x68600FB7B, 0x68600FB7C,
    0x68600FB7D, 0x68700FB7E, 0x68700FB7F, 0x68700FB80, 0x68700FB81, 0x68D00FB82, 0x68D00FB83,
    0x68C00FB84, 0x68C00FB85, 0x68E00FB86, 0x68E00FB87, 0x68800FB88, 0x68800FB89, 0x69800FB8A,
    0x69800FB8B, 0x69100FB8C, 0x69100FB8D, 0x6A900FB8E, 0x6A900FB8F, 0x6A900FB90, 0x6A900FB91,
    0x6AF00FB92, 0x6AF00FB93, 0x6AF00FB94, 0x6AF00FB95, 0x6B300FB96, 0x6B300FB97, 0x6B300FB98,
    0x6B300FB99, 0x6B100FB9A, 0x6B100FB9B, 0x6B100FB9C, 0x6B100FB9D, 0x6BA00FB9E, 0x6BA00FB9F,
    0x6BB00FBA0, 0x6BB00FBA1, 0x6BB00FBA2, 0x6BB00FBA3, 0x6540006D500FBA4, 0x6540006D500FBA5,
    0x6C100FBA6, 0x6C100FBA7, 0x6C100FBA8, 0x6C100FBA9, 0x6BE00FBAA, 0x6BE00FBAB, 0x6BE00FBAC,
    0x6BE00FBAD, 0x6D200FBAE, 0x6D200FBAF, 0x6540006D200FBB0, 0x6540006D200FBB1, 0x6AD00FBD3,
    0x6AD00FBD4, 0x6AD00FBD5, 0x6AD00FBD6, 0x6C700FBD7, 0x6C700FBD8, 0x6C600FBD9, 0x6C600FBDA,
    0x6C800FBDB, 0x6C800FBDC, 0x6740006C700FBDD, 0x6CB00FBDE, 0x6CB00FBDF, 0x6C500FBE0,
    0x6C500FBE1, 0x6C900FBE2, 0x6C900FBE3, 0x6D000FBE4, 0x6D000FBE5, 0x6D000FBE6, 0x6D000FBE7,
    0x64900FBE8, 0x64900FBE9, 0x62700065400064A00FBEA, 0x62700065400064A00FBEB,
    0x6D500065400064A00FBEC, 0x6D500065400064A00FBED, 0x64800065400064A00FBEE,
    0x64800065400064A00FBEF, 0x6C700065400064A00FBF0, 0x6C700065400064A00FBF1,
    0x6C600065400064A00FBF2, 0x6C600065400064A00FBF3, 0x6C800065400064A00FBF4,
    0x6C800065400064A00FBF5, 0x6D000065400064A00FBF6, 0x6D000065400064A00FBF7,
    0x6D000065400064A00FBF8, 0x64900065400064A00FBF9, 0x64900065400064A00FBFA,
    0x64900065400064A00FBFB, 0x6CC00FBFC, 0x6CC00FBFD, 0x6CC00FBFE, 0x6CC00FBFF,
    0x62C00065400064A00FC00, 0x62D00065400064A00FC01, 0x64500065400064A00FC02,
    0x64900065400064A00FC03, 0x64A00065400064A00FC04, 0x62C00062800FC05, 0x62D00062800FC06,
    0x62E00062800FC07, 0x64500062800FC08, 0x64900062800FC09, 0x64A00062800FC0A, 0x62C00062A00FC0B,
    0x62D00062A00FC0C, 0x62E00062A00FC0D, 0x64500062A00FC0E, 0x64900062A00FC0F, 0x64A00062A00FC10,
    0x62C00062B00FC11, 0x64500062B00FC12, 0x64900062B00FC13, 0x64A00062B00FC14, 0x62D00062C00FC15,
    0x64500062C00FC16, 0x62C00062D00FC17, 0x64500062D00FC18, 0x62C00062E00FC19, 0x62D00062E00FC1A,
    0x64500062E00FC1B, 0x62C00063300FC1C, 0x62D00063300FC1D, 0x62E00063300FC1E, 0x64500063300FC1F,
    0x62D00063500FC20, 0x64500063500FC21, 0x62C00063600FC22, 0x62D00063600FC23, 0x62E00063600FC24,
    0x64500063600FC25, 0x62D00063700FC26, 0x64500063700FC27, 0x64500063800FC28, 0x62C00063900FC29,
    0x64500063900FC2A, 0x62C00063A00FC2B, 0x64500063A00FC2C, 0x62C00064100FC2D, 0x62D00064100FC2E,
    0x62E00064100FC2F, 0x64500064100FC30, 0x64900064100FC31]),
  (0xFD2B, [
    0x64A00064100FC32, 0x62D00064200FC33, 0x64500064200FC34, 0x64900064200FC35, 0x64A00064200FC36,
    0x62700064300FC37, 0x62C00064300FC38, 0x62D00064300FC39, 0x62E00064300FC3A, 0x64400064300FC3B,
    0x64500064300FC3C, 0x64900064300FC3D, 0x64A00064300FC3E, 0x62C00064400FC3F, 0x62D00064400FC40,
    0x62E00064400FC41, 0x64500064400FC42, 0x64900064400FC43, 0x64A00064400FC44, 0x62C00064500FC45,
    0x62D00064500FC46, 0x62E00064500FC47, 0x64500064500FC48, 0x64900064500FC49, 0x64A00064500FC4A,
    0x62C00064600FC4B, 0x62D00064600FC4C, 0x62E00064600FC4D, 0x64500064600FC4E, 0x64900064600FC4F,
    0x64A00064600FC50, 0x62C00064700FC51, 0x64500064700FC52, 0x64900064700FC53, 0x64A00064700FC54,
    0x62C00064A00FC55, 0x62D00064A00FC56, 0x62E00064A00FC57, 0x64500064A00FC58, 0x64900064A00FC59,
    0x64A00064A00FC5A, 0x67000063000FC5B, 0x67000063100FC5C, 0x67000064900FC5D,
    0x65100064C00002000FC5E, 0x65100064D00002000FC5F, 0x65100064E00002000FC60,
    0x65100064F00002000FC61, 0x65100065000002000FC62, 0x67000065100002000FC63,
    0x63100065400064A00FC64, 0x63200065400064A00FC65, 0x64500065400064A00FC66,
    0x64600065400064A00FC67, 0x64900065400064A00FC68, 0x64A00065400064A00FC69, 0x63100062800FC6A,
    0x63200062800FC6B, 0x64500062800FC6C, 0x64600062800FC6D, 0x64900062800FC6E, 0x64A00062800FC6F,
    0x63100062A00FC70, 0x63200062A00FC71, 0x64500062A00FC72, 0x64600062A00FC73, 0x64900062A00FC74,
    0x64A00062A00FC75, 0x63100062B00FC76, 0x63200062B00FC77, 0x64500062B00FC78, 0x64600062B00FC79,
    0x64900062B00FC7A, 0x64A00062B00FC7B, 0x64900064100FC7C, 0x64A00064100FC7D, 0x64900064200FC7E,
    0x64A00064200FC7F, 0x62700064300FC80, 0x64400064300FC81, 0x64500064300FC82, 0x64900064300FC83,
    0x64A00064300FC84, 0x64500064400FC85, 0x64900064400FC86, 0x64A00064400FC87, 0x62700064500FC88,
    0x64500064500FC89, 0x63100064600FC8A, 0x63200064600FC8B, 0x64500064600FC8C, 0x64600064600FC8D,
    0x64900064600FC8E, 0x64A00064600FC8F, 0x67000064900FC90, 0x63100064A00FC91, 0x63200064A00FC92,
    0x64500064A00FC93, 0x64600064A00FC94, 0x64900064A00FC95, 0x64A00064A00FC96,
    0x62C00065400064A00FC97, 0x62D00065400064A00FC98, 0x62E00065400064A00FC99,
    0x64500065400064A00FC9A, 0x64700065400064A00FC9B, 0x62C00062800FC9C, 0x62D00062800FC9D,
    0x62E00062800FC9E, 0x64500062800FC9F, 0x64700062800FCA0, 0x62C00062A00FCA1, 0x62D00062A00FCA2,
    0x62E00062A00FCA3, 0x64500062A00FCA4, 0x64700062A00FCA5, 0x64500062B00FCA6, 0x62D00062C00FCA7,
    0x64500062C00FCA8, 0x62C00062D00FCA9, 0x64500062D00FCAA, 0x62C00062E00FCAB, 0x64500062E00FCAC,
    0x62C00063300FCAD, 0x62D00063300FCAE, 0x62E00063300FCAF, 0x64500063300FCB0, 0x62D00063500FCB1,
    0x62E00063500FCB2, 0x64500063500FCB3, 0x62C00063600FCB4, 0x62D00063600FCB5, 0x62E00063600FCB6,
    0x64500063600FCB7, 0x62D00063700FCB8, 0x64500063800FCB9, 0x62C00063900FCBA, 0x64500063900FCBB,
    0x62C00063A00FCBC, 0x64500063A00FCBD, 0x62C00064100FCBE, 0x62D00064100FCBF, 0x62E00064100FCC0,
    0x64500064100FCC1, 0x62D00064200FCC2, 0x64500064200FCC3, 0x62C00064300FCC4, 0x62D00064300FCC5,
    0x62E00064300FCC6, 0x64400064300FCC7, 0x64500064300FCC8, 0x62C00064400FCC9, 0x62D00064400FCCA,
    0x62E00064400FCCB, 0x64500064400FCCC, 0x64700064400FCCD, 0x62C00064500FCCE, 0x62D00064500FCCF,
    0x62E00064500FCD0, 0x64500064500FCD1, 0x62C00064600FCD2, 0x62D00064600FCD3, 0x62E00064600FCD4,
    0x64500064600FCD5, 0x64700064600FCD6, 0x62C00064700FCD7, 0x64500064700FCD8, 0x67000064700FCD9,
    0x62C00064A00FCDA, 0x62D00064A00FCDB, 0x62E00064A00FCDC, 0x64500064A00FCDD, 0x64700064A00FCDE,
    0x64500065400064A00FCDF, 0x64700065400064A00FCE0, 0x64500062800FCE1, 0x64700062800FCE2,
    0x64500062A00FCE3, 0x64700062A00FCE4, 0x64500062B00FCE5, 0x64700062B00FCE6, 0x64500063300FCE7,
    0x64700063300FCE8, 0x64500063400FCE9, 0x64700063400FCEA, 0x64400064300FCEB, 0x64500064300FCEC,
    0x64500064400FCED, 0x64500064600FCEE, 0x64700064600FCEF, 0x64500064A00FCF0, 0x64700064A00FCF1,
    0x65100064E00064000FCF2, 0x65100064F00064000FCF3, 0x65100065000064000FCF4, 0x64900063700FCF5,
    0x64A00063700FCF6, 0x64900063900FCF7, 0x64A00063900FCF8, 0x64900063A00FCF9, 0x64A00063A00FCFA,
    0x64900063300FCFB, 0x64A00063300FCFC, 0x64900063400FCFD, 0x64A00063400FCFE, 0x64900062D00FCFF,
    0x64A00062D00FD00, 0x64900062C00FD01, 0x64A00062C00FD02, 0x64900062E00FD03, 0x64A00062E00FD04,
    0x64900063500FD05, 0x64A00063500FD06, 0x64900063600FD07, 0x64A00063600FD08, 0x62C00063400FD09,
    0x62D00063400FD0A, 0x62E00063400FD0B, 0x64500063400FD0C, 0x63100063400FD0D, 0x63100063300FD0E,
    0x63100063500FD0F, 0x63100063600FD10, 0x64900063700FD11, 0x64A00063700FD12, 0x64900063900FD13,
    0x64A00063900FD14, 0x64900063A00FD15, 0x64A00063A00FD16, 0x64900063300FD17, 0x64A00063300FD18,
    0x64900063400FD19, 0x64A00063400FD1A, 0x64900062D00FD1B, 0x64A00062D00FD1C, 0x64900062C00FD1D,
    0x64A00062C00FD1E, 0x64900062E00FD1F, 0x64A00062E00FD20, 0x64900063500FD21, 0x64A00063500FD22,
    0x64900063600FD23, 0x64A00063600FD24, 0x62C00063400FD25, 0x62D00063400FD26, 0x62E00063400FD27,
    0x64500063400FD28, 0x63100063400FD29, 0x63100063300FD2A, 0x63100063500FD2B]),
  (0xFE94, [
    0x63100063600FD2C, 0x62C00063400FD2D, 0x62D00063400FD2E, 0x62E00063400FD2F, 0x64500063400FD30,
    0x64700063300FD31, 0x64700063400FD32, 0x64500063700FD33, 0x62C00063300FD34, 0x62D00063300FD35,
    0x62E00063300FD36, 0x62C00063400FD37, 0x62D00063400FD38, 0x62E00063400FD39, 0x64500063700FD3A,
    0x64500063800FD3B, 0x64B00062700FD3C, 0x64B00062700FD3D, 0x64500062C00062A00FD50,
    0x62C00062D00062A00FD51, 0x62C00062D00062A00FD52, 0x64500062D00062A00FD53,
    0x64500062E00062A00FD54, 0x62C00064500062A00FD55, 0x62D00064500062A00FD56,
    0x62E00064500062A00FD57, 0x62D00064500062C00FD58, 0x62D00064500062C00FD59,
    0x64A00064500062D00FD5A, 0x64900064500062D00FD5B, 0x62C00062D00063300FD5C,
    0x62D00062C00063300FD5D, 0x64900062C00063300FD5E, 0x62D00064500063300FD5F,
    0x62D00064500063300FD60, 0x62C00064500063300FD61, 0x64500064500063300FD62,
    0x64500064500063300FD63, 0x62D00062D00063500FD64, 0x62D00062D00063500FD65,
    0x64500064500063500FD66, 0x64500062D00063400FD67, 0x64500062D00063400FD68,
    0x64A00062C00063400FD69, 0x62E00064500063400FD6A, 0x62E00064500063400FD6B,
    0x64500064500063400FD6C, 0x64500064500063400FD6D, 0x64900062D00063600FD6E,
    0x64500062E00063600FD6F, 0x64500062E00063600FD70, 0x62D00064500063700FD71,
    0x62D00064500063700FD72, 0x64500064500063700FD73, 0x64A00064500063700FD74,
    0x64500062C00063900FD75, 0x64500064500063900FD76, 0x64500064500063900FD77,
    0x64900064500063900FD78, 0x64500064500063A00FD79, 0x64A00064500063A00FD7A,
    0x64900064500063A00FD7B, 0x64500062E00064100FD7C, 0x64500062E00064100FD7D,
    0x62D00064500064200FD7E, 0x64500064500064200FD7F, 0x64500062D00064400FD80,
    0x64A00062D00064400FD81, 0x64900062D00064400FD82, 0x62C00062C00064400FD83,
    0x62C00062C00064400FD84, 0x64500062E00064400FD85, 0x64500062E00064400FD86,
    0x62D00064500064400FD87, 0x62D00064500064400FD88, 0x62C00062D00064500FD89,
    0x64500062D00064500FD8A, 0x64A00062D00064500FD8B, 0x62D00062C00064500FD8C,
    0x64500062C00064500FD8D, 0x62C00062E00064500FD8E, 0x64500062E00064500FD8F,
    0x62E00062C00064500FD92, 0x62C00064500064700FD93, 0x64500064500064700FD94,
    0x64500062D00064600FD95, 0x64900062D00064600FD96, 0x64500062C00064600FD97,
    0x64500062C00064600FD98, 0x64900062C00064600FD99, 0x64A00064500064600FD9A,
    0x64900064500064600FD9B, 0x64500064500064A00FD9C, 0x64500064500064A00FD9D,
    0x64A00062E00062800FD9E, 0x64A00062C00062A00FD9F, 0x64900062C00062A00FDA0,
    0x64A00062E00062A00FDA1, 0x64900062E00062A00FDA2, 0x64A00064500062A00FDA3,
    0x64900064500062A00FDA4, 0x64A00064500062C00FDA5, 0x64900062D00062C00FDA6,
    0x64900064500062C00FDA7, 0x64900062E00063300FDA8, 0x64A00062D00063500FDA9,
    0x64A00062D00063400FDAA, 0x64A00062D00063600FDAB, 0x64A00062C00064400FDAC,
    0x64A00064500064400FDAD, 0x64A00062D00064A00FDAE, 0x64A00062C00064A00FDAF,
    0x64A00064500064A00FDB0, 0x64A00064500064500FDB1, 0x64A00064500064200FDB2,
    0x64A00062D00064600FDB3, 0x62D00064500064200FDB4, 0x64500062D00064400FDB5,
    0x64A00064500063900FDB6, 0x64A00064500064300FDB7, 0x62D00062C00064600FDB8,
    0x64A00062E00064500FDB9, 0x64500062C00064400FDBA, 0x64500064500064300FDBB,
    0x64500062C00064400FDBC, 0x62D00062C00064600FDBD, 0x64A00062D00062C00FDBE,
    0x64A00062C00062D00FDBF, 0x64A00062C00064500FDC0, 0x64A00064500064100FDC1,
    0x64A00062D00062800FDC2, 0x64500064500064300FDC3, 0x64500062C00063900FDC4,
    0x64500064500063500FDC5, 0x64A00062E00063300FDC6, 0x64A00062C00064600FDC7,
    0x6D200064400063500FDF0, 0x6D200064400064200FDF1, 0x64700064400064400062700FDF2,
    0x63100062800064300062700FDF3, 0x62F00064500062D00064500FDF4, 0x64500063900064400063500FDF5,
    0x64400064800063300063100FDF6, 0x64700064A00064400063900FDF7, 0x64500064400063300064800FDF8,
    0x64900064400063500FDF9,
    0x64500064400063300064800002000064700064A00064400063900002000064700064400064400062700002000064900064400063500FDFA,
    0x64700064400062700064400062C00002000064400062C00FDFB, 0x6440006270006CC00063100FDFC,
    0x2C00FE10, 0x300100FE11, 0x300200FE12, 0x3A00FE13, 0x3B00FE14, 0x2100FE15, 0x3F00FE16,
    0x301600FE17, 0x301700FE18, 0x2E00002E00002E00FE19, 0x2E00002E00FE30, 0x201400FE31,
    0x201300FE32, 0x5F00FE33, 0x5F00FE34, 0x2800FE35, 0x2900FE36, 0x7B00FE37, 0x7D00FE38,
    0x301400FE39, 0x301500FE3A, 0x301000FE3B, 0x301100FE3C, 0x300A00FE3D, 0x300B00FE3E,
    0x300800FE3F, 0x300900FE40, 0x300C00FE41, 0x300D00FE42, 0x300E00FE43, 0x300F00FE44, 0x5B00FE47,
    0x5D00FE48, 0x30500002000FE49, 0x30500002000FE4A, 0x30500002000FE4B, 0x30500002000FE4C,
    0x5F00FE4D, 0x5F00FE4E, 0x5F00FE4F, 0x2C00FE50, 0x300100FE51, 0x2E00FE52, 0x3B00FE54,
    0x3A00FE55, 0x3F00FE56, 0x2100FE57, 0x201400FE58, 0x2800FE59, 0x2900FE5A, 0x7B00FE5B,
    0x7D00FE5C, 0x301400FE5D, 0x301500FE5E, 0x2300FE5F, 0x2600FE60, 0x2A00FE61, 0x2B00FE62,
    0x2D00FE63, 0x3C00FE64, 0x3E00FE65, 0x3D00FE66, 0x5C00FE68, 0x2400FE69, 0x2500FE6A, 0x4000FE6B,
    0x64B00002000FE70, 0x64B00064000FE71, 0x64C00002000FE72, 0x64D00002000FE74, 0x64E00002000FE76,
    0x64E00064000FE77, 0x64F00002000FE78, 0x64F00064000FE79, 0x65000002000FE7A, 0x65000064000FE7B,
    0x65100002000FE7C, 0x65100064000FE7D, 0x65200002000FE7E, 0x65200064000FE7F, 0x62100FE80,
    0x65300062700FE81, 0x65300062700FE82, 0x65400062700FE83, 0x65400062700FE84, 0x65400064800FE85,
    0x65400064800FE86, 0x65500062700FE87, 0x65500062700FE88, 0x65400064A00FE89, 0x65400064A00FE8A,
    0x65400064A00FE8B, 0x65400064A00FE8C, 0x62700FE8D, 0x62700FE8E, 0x62800FE8F, 0x62800FE90,
    0x62800FE91, 0x62800FE92, 0x62900FE93, 0x62900FE94]),
  (0xFF92, [
    0x62A00FE95, 0x62A00FE96, 0x62A00FE97, 0x62A00FE98, 0x62B00FE99, 0x62B00FE9A, 0x62B00FE9B,
    0x62B00FE9C, 0x62C00FE9D, 0x62C00FE9E, 0x62C00FE9F, 0x62C00FEA0, 0x62D00FEA1, 0x62D00FEA2,
    0x62D00FEA3, 0x62D00FEA4, 0x62E00FEA5, 0x62E00FEA6, 0x62E00FEA7, 0x62E00FEA8, 0x62F00FEA9,
    0x62F00FEAA, 0x63000FEAB, 0x63000FEAC, 0x63100FEAD, 0x63100FEAE, 0x63200FEAF, 0x63200FEB0,
    0x63300FEB1, 0x63300FEB2, 0x63300FEB3, 0x63300FEB4, 0x63400FEB5, 0x63400FEB6, 0x63400FEB7,
    0x63400FEB8, 0x63500FEB9, 0x63500FEBA, 0x63500FEBB, 0x63500FEBC, 0x63600FEBD, 0x63600FEBE,
    0x63600FEBF, 0x63600FEC0, 0x63700FEC1, 0x63700FEC2, 0x63700FEC3, 0x63700FEC4, 0x63800FEC5,
    0x63800FEC6, 0x63800FEC7, 0x63800FEC8, 0x63900FEC9, 0x63900FECA, 0x63900FECB, 0x63900FECC,
    0x63A00FECD, 0x63A00FECE, 0x63A00FECF, 0x63A00FED0, 0x64100FED1, 0x64100FED2, 0x64100FED3,
    0x64100FED4, 0x64200FED5, 0x64200FED6, 0x64200FED7, 0x64200FED8, 0x64300FED9, 0x64300FEDA,
    0x64300FEDB, 0x64300FEDC, 0x64400FEDD, 0x64400FEDE, 0x64400FEDF, 0x64400FEE0, 0x64500FEE1,
    0x64500FEE2, 0x64500FEE3, 0x64500FEE4, 0x64600FEE5, 0x64600FEE6, 0x64600FEE7, 0x64600FEE8,
    0x64700FEE9, 0x64700FEEA, 0x64700FEEB, 0x64700FEEC, 0x64800FEED, 0x64800FEEE, 0x64900FEEF,
    0x64900FEF0, 0x64A00FEF1, 0x64A00FEF2, 0x64A00FEF3, 0x64A00FEF4, 0x65300062700064400FEF5,
    0x65300062700064400FEF6, 0x65400062700064400FEF7, 0x65400062700064400FEF8,
    0x65500062700064400FEF9, 0x65500062700064400FEFA, 0x62700064400FEFB, 0x62700064400FEFC,
    0x2100FF01, 0x2200FF02, 0x2300FF03, 0x2400FF04, 0x2500FF05, 0x2600FF06, 0x2700FF07, 0x2800FF08,
    0x2900FF09, 0x2A00FF0A, 0x2B00FF0B, 0x2C00FF0C, 0x2D00FF0D, 0x2E00FF0E, 0x2F00FF0F, 0x3000FF10,
    0x3100FF11, 0x3200FF12, 0x3300FF13, 0x3400FF14, 0x3500FF15, 0x3600FF16, 0x3700FF17, 0x3800FF18,
    0x3900FF19, 0x3A00FF1A, 0x3B00FF1B, 0x3C00FF1C, 0x3D00FF1D, 0x3E00FF1E, 0x3F00FF1F, 0x4000FF20,
    0x4100FF21, 0x4200FF22, 0x4300FF23, 0x4400FF24, 0x4500FF25, 0x4600FF26, 0x4700FF27, 0x4800FF28,
    0x4900FF29, 0x4A00FF2A, 0x4B00FF2B, 0x4C00FF2C, 0x4D00FF2D, 0x4E00FF2E, 0x4F00FF2F, 0x5000FF30,
    0x5100FF31, 0x5200FF32, 0x5300FF33, 0x5400FF34, 0x5500FF35, 0x5600FF36, 0x5700FF37, 0x5800FF38,
    0x5900FF39, 0x5A00FF3A, 0x5B00FF3B, 0x5C00FF3C, 0x5D00FF3D, 0x5E00FF3E, 0x5F00FF3F, 0x6000FF40,
    0x6100FF41, 0x6200FF42, 0x6300FF43, 0x6400FF44, 0x6500FF45, 0x6600FF46, 0x6700FF47, 0x6800FF48,
    0x6900FF49, 0x6A00FF4A, 0x6B00FF4B, 0x6C00FF4C, 0x6D00FF4D, 0x6E00FF4E, 0x6F00FF4F, 0x7000FF50,
    0x7100FF51, 0x7200FF52, 0x7300FF53, 0x7400FF54, 0x7500FF55, 0x7600FF56, 0x7700FF57, 0x7800FF58,
    0x7900FF59, 0x7A00FF5A, 0x7B00FF5B, 0x7C00FF5C, 0x7D00FF5D, 0x7E00FF5E, 0x298500FF5F,
    0x298600FF60, 0x300200FF61, 0x300C00FF62, 0x300D00FF63, 0x300100FF64, 0x30FB00FF65,
    0x30F200FF66, 0x30A100FF67, 0x30A300FF68, 0x30A500FF69, 0x30A700FF6A, 0x30A900FF6B,
    0x30E300FF6C, 0x30E500FF6D, 0x30E700FF6E, 0x30C300FF6F, 0x30FC00FF70, 0x30A200FF71,
    0x30A400FF72, 0x30A600FF73, 0x30A800FF74, 0x30AA00FF75, 0x30AB00FF76, 0x30AD00FF77,
    0x30AF00FF78, 0x30B100FF79, 0x30B300FF7A, 0x30B500FF7B, 0x30B700FF7C, 0x30B900FF7D,
    0x30BB00FF7E, 0x30BD00FF7F, 0x30BF00FF80, 0x30C100FF81, 0x30C400FF82, 0x30C600FF83,
    0x30C800FF84, 0x30CA00FF85, 0x30CB00FF86, 0x30CC00FF87, 0x30CD00FF88, 0x30CE00FF89,
    0x30CF00FF8A, 0x30D200FF8B, 0x30D500FF8C, 0x30D800FF8D, 0x30DB00FF8E, 0x30DE00FF8F,
    0x30DF00FF90, 0x30E000FF91, 0x30E100FF92]),
  (0xFFEE, [
    0x30E200FF93, 0x30E400FF94, 0x30E600FF95, 0x30E800FF96, 0x30E900FF97, 0x30EA00FF98,
    0x30EB00FF99, 0x30EC00FF9A, 0x30ED00FF9B, 0x30EF00FF9C, 0x30F300FF9D, 0x309900FF9E,
    0x309A00FF9F, 0x116000FFA0, 0x110000FFA1, 0x110100FFA2, 0x11AA00FFA3, 0x110200FFA4,
    0x11AC00FFA5, 0x11AD00FFA6, 0x110300FFA7, 0x110400FFA8, 0x110500FFA9, 0x11B000FFAA,
    0x11B100FFAB, 0x11B200FFAC, 0x11B300FFAD, 0x11B400FFAE, 0x11B500FFAF, 0x111A00FFB0,
    0x110600FFB1, 0x110700FFB2, 0x110800FFB3, 0x112100FFB4, 0x110900FFB5, 0x110A00FFB6,
    0x110B00FFB7, 0x110C00FFB8, 0x110D00FFB9, 0x110E00FFBA, 0x110F00FFBB, 0x111000FFBC,
    0x111100FFBD, 0x111200FFBE, 0x116100FFC2, 0x116200FFC3, 0x116300FFC4, 0x116400FFC5,
    0x116500FFC6, 0x116600FFC7, 0x116700FFCA, 0x116800FFCB, 0x116900FFCC, 0x116A00FFCD,
    0x116B00FFCE, 0x116C00FFCF, 0x116D00FFD2, 0x116E00FFD3, 0x116F00FFD4, 0x117000FFD5,
    0x117100FFD6, 0x117200FFD7, 0x117300FFDA, 0x117400FFDB, 0x117500FFDC, 0xA200FFE0, 0xA300FFE1,
    0xAC00FFE2, 0x30400002000FFE3, 0xA600FFE4, 0xA500FFE5, 0x20A900FFE6, 0x250200FFE8,
    0x219000FFE9, 0x219100FFEA, 0x219200FFEB, 0x219300FFEC, 0x25A000FFED, 0x25CB00FFEE])]

/-- Mathematical letters and other characters, from U+10000 to U+1FFFF. -/
def styledDecompositions : PackedTable := [
  (0x1D4B0, [
    0x2D0010781, 0x2D1010782, 0xE6010783, 0x299010784, 0x253010785, 0x2A3010787, 0xAB66010788,
    0x2A5010789, 0x2A401078A, 0x25601078B, 0x25701078C, 0x1D9101078D, 0x25801078E, 0x25E01078F,
    0x2A9010790, 0x264010791, 0x262010792, 0x260010793, 0x29B010794, 0x127010795, 0x29C010796,
    0x267010797, 0x284010798, 0x2AA010799, 0x2AB01079A, 0x26C01079B, 0x1DF0401079C, 0xA78E01079D,
    0x26E01079E, 0x1DF0501079F, 0x28E0107A0, 0x1DF060107A1, 0xF80107A2, 0x2760107A3, 0x2770107A4,
    0x710107A5, 0x27A0107A6, 0x1DF080107A7, 0x27D0107A8, 0x27E0107A9, 0x2800107AA, 0x2A80107AB,
    0x2A60107AC, 0xAB670107AD, 0x2A70107AE, 0x2880107AF, 0x2C710107B0, 0x28F0107B2, 0x2A10107B3,
    0x2A20107B4, 0x2980107B5, 0x1C00107B6, 0x1C10107B7, 0x1C20107B8, 0x1DF0A0107B9, 0x1DF1E0107BA,
    0x110BA01109901109A, 0x110BA01109B01109C, 0x110BA0110A50110AB, 0x1112701113101112E,
    0x1112701113201112F, 0x1133E01134701134B, 0x1135701134701134C, 0x114BA0114B90114BB,
    0x114B00114B90114BC, 0x114BD0114B90114BE, 0x115AF0115B80115BA, 0x115AF0115B90115BB,
    0x11930011935011938, 0x1D16501D15701D15E, 0x1D16501D15801D15F, 0x1D16E01D16501D15801D160,
    0x1D16F01D16501D15801D161, 0x1D17001D16501D15801D162, 0x1D17101D16501D15801D163,
    0x1D17201D16501D15801D164, 0x1D16501D1B901D1BB, 0x1D16501D1BA01D1BC, 0x1D16E01D16501D1B901D1BD,
    0x1D16E01D16501D1BA01D1BE, 0x1D16F01D16501D1B901D1BF, 0x1D16F01D16501D1BA01D1C0, 0x4101D400,
    0x4201D401, 0x4301D402, 0x4401D403, 0x4501D404, 0x4601D405, 0x4701D406, 0x4801D407, 0x4901D408,
    0x4A01D409, 0x4B01D40A, 0x4C01D40B, 0x4D01D40C, 0x4E01D40D, 0x4F01D40E, 0x5001D40F, 0x5101D410,
    0x5201D411, 0x5301D412, 0x5401D413, 0x5501D414, 0x5601D415, 0x5701D416, 0x5801D417, 0x5901D418,
    0x5A01D419, 0x6101D41A, 0x6201D41B, 0x6301D41C, 0x6401D41D, 0x6501D41E, 0x6601D41F, 0x6701D420,
    0x6801D421, 0x6901D422, 0x6A01D423, 0x6B01D424, 0x6C01D425, 0x6D01D426, 0x6E01D427, 0x6F01D428,
    0x7001D429, 0x7101D42A, 0x7201D42B, 0x7301D42C, 0x7401D42D, 0x7501D42E, 0x7601D42F, 0x7701D430,
    0x7801D431, 0x7901D432, 0x7A01D433, 0x4101D434, 0x4201D435, 0x4301D436, 0x4401D437, 0x4501D438,
    0x4601D439, 0x4701D43A, 0x4801D43B, 0x4901D43C, 0x4A01D43D, 0x4B01D43E, 0x4C01D43F, 0x4D01D440,
    0x4E01D441, 0x4F01D442, 0x5001D443, 0x5101D444, 0x5201D445, 0x5301D446, 0x5401D447, 0x5501D448,
    0x5601D449, 0x5701D44A, 0x5801D44B, 0x5901D44C, 0x5A01D44D, 0x6101D44E, 0x6201D44F, 0x6301D450,
    0x6401D451, 0x6501D452, 0x6601D453, 0x6701D454, 0x6901D456, 0x6A01D457, 0x6B01D458, 0x6C01D459,
    0x6D01D45A, 0x6E01D45B, 0x6F01D45C, 0x7001D45D, 0x7101D45E, 0x7201D45F, 0x7301D460, 0x7401D461,
    0x7501D462, 0x7601D463, 0x7701D464, 0x7801D465, 0x7901D466, 0x7A01D467, 0x4101D468, 0x4201D469,
    0x4301D46A, 0x4401D46B, 0x4501D46C, 0x4601D46D, 0x4701D46E, 0x4801D46F, 0x4901D470, 0x4A01D471,
    0x4B01D472, 0x4C01D473, 0x4D01D474, 0x4E01D475, 0x4F01D476, 0x5001D477, 0x5101D478, 0x5201D479,
    0x5301D47A, 0x5401D47B, 0x5501D47C, 0x5601D47D, 0x5701D47E, 0x5801D47F, 0x5901D480, 0x5A01D481,
    0x6101D482, 0x6201D483, 0x6301D484, 0x6401D485, 0x6501D486, 0x6601D487, 0x6701D488, 0x6801D489,
    0x6901D48A, 0x6A01D48B, 0x6B01D48C, 0x6C01D48D, 0x6D01D48E, 0x6E01D48F, 0x6F01D490, 0x7001D491,
    0x7101D492, 0x7201D493, 0x7301D494, 0x7401D495, 0x7501D496, 0x7601D497, 0x7701D498, 0x7801D499,
    0x7901D49A, 0x7A01D49B, 0x4101D49C, 0x4301D49E, 0x4401D49F, 0x4701D4A2, 0x4A01D4A5, 0x4B01D4A6,
    0x4E01D4A9, 0x4F01D4AA, 0x5001D4AB, 0x5101D4AC, 0x5301D4AE, 0x5401D4AF, 0x5501D4B0]),
  (0x1D5B9, [
    0x5601D4B1, 0x5701D4B2, 0x5801D4B3, 0x5901D4B4, 0x5A01D4B5, 0x6101D4B6, 0x6201D4B7, 0x6301D4B8,
    0x6401D4B9, 0x6601D4BB, 0x6801D4BD, 0x6901D4BE, 0x6A01D4BF, 0x6B01D4C0, 0x6C01D4C1, 0x6D01D4C2,
    0x6E01D4C3, 0x7001D4C5, 0x7101D4C6, 0x7201D4C7, 0x7301D4C8, 0x7401D4C9, 0x7501D4CA, 0x7601D4CB,
    0x7701D4CC, 0x7801D4CD, 0x7901D4CE, 0x7A01D4CF, 0x4101D4D0, 0x4201D4D1, 0x4301D4D2, 0x4401D4D3,
    0x4501D4D4, 0x4601D4D5, 0x4701D4D6, 0x4801D4D7, 0x4901D4D8, 0x4A01D4D9, 0x4B01D4DA, 0x4C01D4DB,
    0x4D01D4DC, 0x4E01D4DD, 0x4F01D4DE, 0x5001D4DF, 0x5101D4E0, 0x5201D4E1, 0x5301D4E2, 0x5401D4E3,
    0x5501D4E4, 0x5601D4E5, 0x5701D4E6, 0x5801D4E7, 0x5901D4E8, 0x5A01D4E9, 0x6101D4EA, 0x6201D4EB,
    0x6301D4EC, 0x6401D4ED, 0x6501D4EE, 0x6601D4EF, 0x6701D4F0, 0x6801D4F1, 0x6901D4F2, 0x6A01D4F3,
    0x6B01D4F4, 0x6C01D4F5, 0x6D01D4F6, 0x6E01D4F7, 0x6F01D4F8, 0x7001D4F9, 0x7101D4FA, 0x7201D4FB,
    0x7301D4FC, 0x7401D4FD, 0x7501D4FE, 0x7601D4FF, 0x7701D500, 0x7801D501, 0x7901D502, 0x7A01D503,
    0x4101D504, 0x4201D505, 0x4401D507, 0x4501D508, 0x4601D509, 0x4701D50A, 0x4A01D50D, 0x4B01D50E,
    0x4C01D50F, 0x4D01D510, 0x4E01D511, 0x4F01D512, 0x5001D513, 0x5101D514, 0x5301D516, 0x5401D517,
    0x5501D518, 0x5601D519, 0x5701D51A, 0x5801D51B, 0x5901D51C, 0x6101D51E, 0x6201D51F, 0x6301D520,
    0x6401D521, 0x6501D522, 0x6601D523, 0x6701D524, 0x6801D525, 0x6901D526, 0x6A01D527, 0x6B01D528,
    0x6C01D529, 0x6D01D52A, 0x6E01D52B, 0x6F01D52C, 0x7001D52D, 0x7101D52E, 0x7201D52F, 0x7301D530,
    0x7401D531, 0x7501D532, 0x7601D533, 0x7701D534, 0x7801D535, 0x7901D536, 0x7A01D537, 0x4101D538,
    0x4201D539, 0x4401D53B, 0x4501D53C, 0x4601D53D, 0x4701D53E, 0x4901D540, 0x4A01D541, 0x4B01D542,
    0x4C01D543, 0x4D01D544, 0x4F01D546, 0x5301D54A, 0x5401D54B, 0x5501D54C, 0x5601D54D, 0x5701D54E,
    0x5801D54F, 0x5901D550, 0x6101D552, 0x6201D553, 0x6301D554, 0x6401D555, 0x6501D556, 0x6601D557,
    0x6701D558, 0x6801D559, 0x6901D55A, 0x6A01D55B, 0x6B01D55C, 0x6C01D55D, 0x6D01D55E, 0x6E01D55F,
    0x6F01D560, 0x7001D561, 0x7101D562, 0x7201D563, 0x7301D564, 0x7401D565, 0x7501D566, 0x7601D567,
    0x7701D568, 0x7801D569, 0x7901D56A, 0x7A01D56B, 0x4101D56C, 0x4201D56D, 0x4301D56E, 0x4401D56F,
    0x4501D570, 0x4601D571, 0x4701D572, 0x4801D573, 0x4901D574, 0x4A01D575, 0x4B01D576, 0x4C01D577,
    0x4D01D578, 0x4E01D579, 0x4F01D57A, 0x5001D57B, 0x5101D57C, 0x5201D57D, 0x5301D57E, 0x5401D57F,
    0x5501D580, 0x5601D581, 0x5701D582, 0x5801D583, 0x5901D584, 0x5A01D585, 0x6101D586, 0x6201D587,
    0x6301D588, 0x6401D589, 0x6501D58A, 0x6601D58B, 0x6701D58C, 0x6801D58D, 0x6901D58E, 0x6A01D58F,
    0x6B01D590, 0x6C01D591, 0x6D01D592, 0x6E01D593, 0x6F01D594, 0x7001D595, 0x7101D596, 0x7201D597,
    0x7301D598, 0x7401D599, 0x7501D59A, 0x7601D59B, 0x7701D59C, 0x7801D59D, 0x7901D59E, 0x7A01D59F,
    0x4101D5A0, 0x4201D5A1, 0x4301D5A2, 0x4401D5A3, 0x4501D5A4, 0x4601D5A5, 0x4701D5A6, 0x4801D5A7,
    0x4901D5A8, 0x4A01D5A9, 0x4B01D5AA, 0x4C01D5AB, 0x4D01D5AC, 0x4E01D5AD, 0x4F01D5AE, 0x5001D5AF,
    0x5101D5B0, 0x5201D5B1, 0x5301D5B2, 0x5401D5B3, 0x5501D5B4, 0x5601D5B5, 0x5701D5B6, 0x5801D5B7,
    0x5901D5B8, 0x5A01D5B9]),
  (0x1D6B5, [
    0x6101D5BA, 0x6201D5BB, 0x6301D5BC, 0x6401D5BD, 0x6501D5BE, 0x6601D5BF, 0x6701D5C0, 0x6801D5C1,
    0x6901D5C2, 0x6A01D5C3, 0x6B01D5C4, 0x6C01D5C5, 0x6D01D5C6, 0x6E01D5C7, 0x6F01D5C8, 0x7001D5C9,
    0x7101D5CA, 0x7201D5CB, 0x7301D5CC, 0x7401D5CD, 0x7501D5CE, 0x7601D5CF, 0x7701D5D0, 0x7801D5D1,
    0x7901D5D2, 0x7A01D5D3, 0x4101D5D4, 0x4201D5D5, 0x4301D5D6, 0x4401D5D7, 0x4501D5D8, 0x4601D5D9,
    0x4701D5DA, 0x4801D5DB, 0x4901D5DC, 0x4A01D5DD, 0x4B01D5DE, 0x4C01D5DF, 0x4D01D5E0, 0x4E01D5E1,
    0x4F01D5E2, 0x5001D5E3, 0x5101D5E4, 0x5201D5E5, 0x5301D5E6, 0x5401D5E7, 0x5501D5E8, 0x5601D5E9,
    0x5701D5EA, 0x5801D5EB, 0x5901D5EC, 0x5A01D5ED, 0x6101D5EE, 0x6201D5EF, 0x6301D5F0, 0x6401D5F1,
    0x6501D5F2, 0x6601D5F3, 0x6701D5F4, 0x6801D5F5, 0x6901D5F6, 0x6A01D5F7, 0x6B01D5F8, 0x6C01D5F9,
    0x6D01D5FA, 0x6E01D5FB, 0x6F01D5FC, 0x7001D5FD, 0x7101D5FE, 0x7201D5FF, 0x7301D600, 0x7401D601,
    0x7501D602, 0x7601D603, 0x7701D604, 0x7801D605, 0x7901D606, 0x7A01D607, 0x4101D608, 0x4201D609,
    0x4301D60A, 0x4401D60B, 0x4501D60C, 0x4601D60D, 0x4701D60E, 0x4801D60F, 0x4901D610, 0x4A01D611,
    0x4B01D612, 0x4C01D613, 0x4D01D614, 0x4E01D615, 0x4F01D616, 0x5001D617, 0x5101D618, 0x5201D619,
    0x5301D61A, 0x5401D61B, 0x5501D61C, 0x5601D61D, 0x5701D61E, 0x5801D61F, 0x5901D620, 0x5A01D621,
    0x6101D622, 0x6201D623, 0x6301D624, 0x6401D625, 0x6501D626, 0x6601D627, 0x6701D628, 0x6801D629,
    0x6901D62A, 0x6A01D62B, 0x6B01D62C, 0x6C01D62D, 0x6D01D62E, 0x6E01D62F, 0x6F01D630, 0x7001D631,
    0x7101D632, 0x7201D633, 0x7301D634, 0x7401D635, 0x7501D636, 0x7601D637, 0x7701D638, 0x7801D639,
    0x7901D63A, 0x7A01D63B, 0x4101D63C, 0x4201D63D, 0x4301D63E, 0x4401D63F, 0x4501D640, 0x4601D641,
    0x4701D642, 0x4801D643, 0x4901D644, 0x4A01D645, 0x4B01D646, 0x4C01D647, 0x4D01D648, 0x4E01D649,
    0x4F01D64A, 0x5001D64B, 0x5101D64C, 0x5201D64D, 0x5301D64E, 0x5401D64F, 0x5501D650, 0x5601D651,
    0x5701D652, 0x5801D653, 0x5901D654, 0x5A01D655, 0x6101D656, 0x6201D657, 0x6301D658, 0x6401D659,
    0x6501D65A, 0x6601D65B, 0x6701D65C, 0x6801D65D, 0x6901D65E, 0x6A01D65F, 0x6B01D660, 0x6C01D661,
    0x6D01D662, 0x6E01D663, 0x6F01D664, 0x7001D665, 0x7101D666, 0x7201D667, 0x7301D668, 0x7401D669,
    0x7501D66A, 0x7601D66B, 0x7701D66C, 0x7801D66D, 0x7901D66E, 0x7A01D66F, 0x4101D670, 0x4201D671,
    0x4301D672, 0x4401D673, 0x4501D674, 0x4601D675, 0x4701D676, 0x4801D677, 0x4901D678, 0x4A01D679,
    0x4B01D67A, 0x4C01D67B, 0x4D01D67C, 0x4E01D67D, 0x4F01D67E, 0x5001D67F, 0x5101D680, 0x5201D681,
    0x5301D682, 0x5401D683, 0x5501D684, 0x5601D685, 0x5701D686, 0x5801D687, 0x5901D688, 0x5A01D689,
    0x6101D68A, 0x6201D68B, 0x6301D68C, 0x6401D68D, 0x6501D68E, 0x6601D68F, 0x6701D690, 0x6801D691,
    0x6901D692, 0x6A01D693, 0x6B01D694, 0x6C01D695, 0x6D01D696, 0x6E01D697, 0x6F01D698, 0x7001D699,
    0x7101D69A, 0x7201D69B, 0x7301D69C, 0x7401D69D, 0x7501D69E, 0x7601D69F, 0x7701D6A0, 0x7801D6A1,
    0x7901D6A2, 0x7A01D6A3, 0x13101D6A4, 0x23701D6A5, 0x39101D6A8, 0x39201D6A9, 0x39301D6AA,
    0x39401D6AB, 0x39501D6AC, 0x39601D6AD, 0x39701D6AE, 0x39801D6AF, 0x39901D6B0, 0x39A01D6B1,
    0x39B01D6B2, 0x39C01D6B3, 0x39D01D6B4, 0x39E01D6B5]),
  (0x1D7AF, [
    0x39F01D6B6, 0x3A001D6B7, 0x3A101D6B8, 0x39801D6B9, 0x3A301D6BA, 0x3A401D6BB, 0x3A501D6BC,
    0x3A601D6BD, 0x3A701D6BE, 0x3A801D6BF, 0x3A901D6C0, 0x220701D6C1, 0x3B101D6C2, 0x3B201D6C3,
    0x3B301D6C4, 0x3B401D6C5, 0x3B501D6C6, 0x3B601D6C7, 0x3B701D6C8, 0x3B801D6C9, 0x3B901D6CA,
    0x3BA01D6CB, 0x3BB01D6CC, 0x3BC01D6CD, 0x3BD01D6CE, 0x3BE01D6CF, 0x3BF01D6D0, 0x3C001D6D1,
    0x3C101D6D2, 0x3C201D6D3, 0x3C301D6D4, 0x3C401D6D5, 0x3C501D6D6, 0x3C601D6D7, 0x3C701D6D8,
    0x3C801D6D9, 0x3C901D6DA, 0x220201D6DB, 0x3B501D6DC, 0x3B801D6DD, 0x3BA01D6DE, 0x3C601D6DF,
    0x3C101D6E0, 0x3C001D6E1, 0x39101D6E2, 0x39201D6E3, 0x39301D6E4, 0x39401D6E5, 0x39501D6E6,
    0x39601D6E7, 0x39701D6E8, 0x39801D6E9, 0x39901D6EA, 0x39A01D6EB, 0x39B01D6EC, 0x39C01D6ED,
    0x39D01D6EE, 0x39E01D6EF, 0x39F01D6F0, 0x3A001D6F1, 0x3A101D6F2, 0x39801D6F3, 0x3A301D6F4,
    0x3A401D6F5, 0x3A501D6F6, 0x3A601D6F7, 0x3A701D6F8, 0x3A801D6F9, 0x3A901D6FA, 0x220701D6FB,
    0x3B101D6FC, 0x3B201D6FD, 0x3B301D6FE, 0x3B401D6FF, 0x3B501D700, 0x3B601D701, 0x3B701D702,
    0x3B801D703, 0x3B901D704, 0x3BA01D705, 0x3BB01D706, 0x3BC01D707, 0x3BD01D708, 0x3BE01D709,
    0x3BF01D70A, 0x3C001D70B, 0x3C101D70C, 0x3C201D70D, 0x3C301D70E, 0x3C401D70F, 0x3C501D710,
    0x3C601D711, 0x3C701D712, 0x3C801D713, 0x3C901D714, 0x220201D715, 0x3B501D716, 0x3B801D717,
    0x3BA01D718, 0x3C601D719, 0x3C101D71A, 0x3C001D71B, 0x39101D71C, 0x39201D71D, 0x39301D71E,
    0x39401D71F, 0x39501D720, 0x39601D721, 0x39701D722, 0x39801D723, 0x39901D724, 0x39A01D725,
    0x39B01D726, 0x39C01D727, 0x39D01D728, 0x39E01D729, 0x39F01D72A, 0x3A001D72B, 0x3A101D72C,
    0x39801D72D, 0x3A301D72E, 0x3A401D72F, 0x3A501D730, 0x3A601D731, 0x3A701D732, 0x3A801D733,
    0x3A901D734, 0x220701D735, 0x3B101D736, 0x3B201D737, 0x3B301D738, 0x3B401D739, 0x3B501D73A,
    0x3B601D73B, 0x3B701D73C, 0x3B801D73D, 0x3B901D73E, 0x3BA01D73F, 0x3BB01D740, 0x3BC01D741,
    0x3BD01D742, 0x3BE01D743, 0x3BF01D744, 0x3C001D745, 0x3C101D746, 0x3C201D747, 0x3C301D748,
    0x3C401D749, 0x3C501D74A, 0x3C601D74B, 0x3C701D74C, 0x3C801D74D, 0x3C901D74E, 0x220201D74F,
    0x3B501D750, 0x3B801D751, 0x3BA01D752, 0x3C601D753, 0x3C101D754, 0x3C001D755, 0x39101D756,
    0x39201D757, 0x39301D758, 0x39401D759, 0x39501D75A, 0x39601D75B, 0x39701D75C, 0x39801D75D,
    0x39901D75E, 0x39A01D75F, 0x39B01D760, 0x39C01D761, 0x39D01D762, 0x39E01D763, 0x39F01D764,
    0x3A001D765, 0x3A101D766, 0x39801D767, 0x3A301D768, 0x3A401D769, 0x3A501D76A, 0x3A601D76B,
    0x3A701D76C, 0x3A801D76D, 0x3A901D76E, 0x220701D76F, 0x3B101D770, 0x3B201D771, 0x3B301D772,
    0x3B401D773, 0x3B501D774, 0x3B601D775, 0x3B701D776, 0x3B801D777, 0x3B901D778, 0x3BA01D779,
    0x3BB01D77A, 0x3BC01D77B, 0x3BD01D77C, 0x3BE01D77D, 0x3BF01D77E, 0x3C001D77F, 0x3C101D780,
    0x3C201D781, 0x3C301D782, 0x3C401D783, 0x3C501D784, 0x3C601D785, 0x3C701D786, 0x3C801D787,
    0x3C901D788, 0x220201D789, 0x3B501D78A, 0x3B801D78B, 0x3BA01D78C, 0x3C601D78D, 0x3C101D78E,
    0x3C001D78F, 0x39101D790, 0x39201D791, 0x39301D792, 0x39401D793, 0x39501D794, 0x39601D795,
    0x39701D796, 0x39801D797, 0x39901D798, 0x39A01D799, 0x39B01D79A, 0x39C01D79B, 0x39D01D79C,
    0x39E01D79D, 0x39F01D79E, 0x3A001D79F, 0x3A101D7A0, 0x39801D7A1, 0x3A301D7A2, 0x3A401D7A3,
    0x3A501D7A4, 0x3A601D7A5, 0x3A701D7A6, 0x3A801D7A7, 0x3A901D7A8, 0x220701D7A9, 0x3B101D7AA,
    0x3B201D7AB, 0x3B301D7AC, 0x3B401D7AD, 0x3B501D7AE, 0x3B601D7AF]),
  (0x1F123, [
    0x3B701D7B0, 0x3B801D7B1, 0x3B901D7B2, 0x3BA01D7B3, 0x3BB01D7B4, 0x3BC01D7B5, 0x3BD01D7B6,
    0x3BE01D7B7, 0x3BF01D7B8, 0x3C001D7B9, 0x3C101D7BA, 0x3C201D7BB, 0x3C301D7BC, 0x3C401D7BD,
    0x3C501D7BE, 0x3C601D7BF, 0x3C701D7C0, 0x3C801D7C1, 0x3C901D7C2, 0x220201D7C3, 0x3B501D7C4,
    0x3B801D7C5, 0x3BA01D7C6, 0x3C601D7C7, 0x3C101D7C8, 0x3C001D7C9, 0x3DC01D7CA, 0x3DD01D7CB,
    0x3001D7CE, 0x3101D7CF, 0x3201D7D0, 0x3301D7D1, 0x3401D7D2, 0x3501D7D3, 0x3601D7D4, 0x3701D7D5,
    0x3801D7D6, 0x3901D7D7, 0x3001D7D8, 0x3101D7D9, 0x3201D7DA, 0x3301D7DB, 0x3401D7DC, 0x3501D7DD,
    0x3601D7DE, 0x3701D7DF, 0x3801D7E0, 0x3901D7E1, 0x3001D7E2, 0x3101D7E3, 0x3201D7E4, 0x3301D7E5,
    0x3401D7E6, 0x3501D7E7, 0x3601D7E8, 0x3701D7E9, 0x3801D7EA, 0x3901D7EB, 0x3001D7EC, 0x3101D7ED,
    0x3201D7EE, 0x3301D7EF, 0x3401D7F0, 0x3501D7F1, 0x3601D7F2, 0x3701D7F3, 0x3801D7F4, 0x3901D7F5,
    0x3001D7F6, 0x3101D7F7, 0x3201D7F8, 0x3301D7F9, 0x3401D7FA, 0x3501D7FB, 0x3601D7FC, 0x3701D7FD,
    0x3801D7FE, 0x3901D7FF, 0x62701EE00, 0x62801EE01, 0x62C01EE02, 0x62F01EE03, 0x64801EE05,
    0x63201EE06, 0x62D01EE07, 0x63701EE08, 0x64A01EE09, 0x64301EE0A, 0x64401EE0B, 0x64501EE0C,
    0x64601EE0D, 0x63301EE0E, 0x63901EE0F, 0x64101EE10, 0x63501EE11, 0x64201EE12, 0x63101EE13,
    0x63401EE14, 0x62A01EE15, 0x62B01EE16, 0x62E01EE17, 0x63001EE18, 0x63601EE19, 0x63801EE1A,
    0x63A01EE1B, 0x66E01EE1C, 0x6BA01EE1D, 0x6A101EE1E, 0x66F01EE1F, 0x62801EE21, 0x62C01EE22,
    0x64701EE24, 0x62D01EE27, 0x64A01EE29, 0x64301EE2A, 0x64401EE2B, 0x64501EE2C, 0x64601EE2D,
    0x63301EE2E, 0x63901EE2F, 0x64101EE30, 0x63501EE31, 0x64201EE32, 0x63401EE34, 0x62A01EE35,
    0x62B01EE36, 0x62E01EE37, 0x63601EE39, 0x63A01EE3B, 0x62C01EE42, 0x62D01EE47, 0x64A01EE49,
    0x64401EE4B, 0x64601EE4D, 0x63301EE4E, 0x63901EE4F, 0x63501EE51, 0x64201EE52, 0x63401EE54,
    0x62E01EE57, 0x63601EE59, 0x63A01EE5B, 0x6BA01EE5D, 0x66F01EE5F, 0x62801EE61, 0x62C01EE62,
    0x64701EE64, 0x62D01EE67, 0x63701EE68, 0x64A01EE69, 0x64301EE6A, 0x64501EE6C, 0x64601EE6D,
    0x63301EE6E, 0x63901EE6F, 0x64101EE70, 0x63501EE71, 0x64201EE72, 0x63401EE74, 0x62A01EE75,
    0x62B01EE76, 0x62E01EE77, 0x63601EE79, 0x63801EE7A, 0x63A01EE7B, 0x66E01EE7C, 0x6A101EE7E,
    0x62701EE80, 0x62801EE81, 0x62C01EE82, 0x62F01EE83, 0x64701EE84, 0x64801EE85, 0x63201EE86,
    0x62D01EE87, 0x63701EE88, 0x64A01EE89, 0x64401EE8B, 0x64501EE8C, 0x64601EE8D, 0x63301EE8E,
    0x63901EE8F, 0x64101EE90, 0x63501EE91, 0x64201EE92, 0x63101EE93, 0x63401EE94, 0x62A01EE95,
    0x62B01EE96, 0x62E01EE97, 0x63001EE98, 0x63601EE99, 0x63801EE9A, 0x63A01EE9B, 0x62801EEA1,
    0x62C01EEA2, 0x62F01EEA3, 0x64801EEA5, 0x63201EEA6, 0x62D01EEA7, 0x63701EEA8, 0x64A01EEA9,
    0x64401EEAB, 0x64501EEAC, 0x64601EEAD, 0x63301EEAE, 0x63901EEAF, 0x64101EEB0, 0x63501EEB1,
    0x64201EEB2, 0x63101EEB3, 0x63401EEB4, 0x62A01EEB5, 0x62B01EEB6, 0x62E01EEB7, 0x63001EEB8,
    0x63601EEB9, 0x63801EEBA, 0x63A01EEBB, 0x2E00003001F100, 0x2C00003001F101, 0x2C00003101F102,
    0x2C00003201F103, 0x2C00003301F104, 0x2C00003401F105, 0x2C00003501F106, 0x2C00003601F107,
    0x2C00003701F108, 0x2C00003801F109, 0x2C00003901F10A, 0x2900004100002801F110,
    0x2900004200002801F111, 0x2900004300002801F112, 0x2900004400002801F113, 0x2900004500002801F114,
    0x2900004600002801F115, 0x2900004700002801F116, 0x2900004800002801F117, 0x2900004900002801F118,
    0x2900004A00002801F119, 0x2900004B00002801F11A, 0x2900004C00002801F11B, 0x2900004D00002801F11C,
    0x2900004E00002801F11D, 0x2900004F00002801F11E, 0x2900005000002801F11F, 0x2900005100002801F120,
    0x2900005200002801F121, 0x2900005300002801F122, 0x2900005400002801F123]),
  (0x1FBF9, [
    0x2900005500002801F124, 0x2900005600002801F125, 0x2900005700002801F126, 0x2900005800002801F127,
    0x2900005900002801F128, 0x2900005A00002801F129, 0x301500005300301401F12A, 0x4301F12B,
    0x5201F12C, 0x4400004301F12D, 0x5A00005701F12E, 0x4101F130, 0x4201F131, 0x4301F132, 0x4401F133,
    0x4501F134, 0x4601F135, 0x4701F136, 0x4801F137, 0x4901F138, 0x4A01F139, 0x4B01F13A, 0x4C01F13B,
    0x4D01F13C, 0x4E01F13D, 0x4F01F13E, 0x5001F13F, 0x5101F140, 0x5201F141, 0x5301F142, 0x5401F143,
    0x5501F144, 0x5601F145, 0x5701F146, 0x5801F147, 0x5901F148, 0x5A01F149, 0x5600004801F14A,
    0x5600004D01F14B, 0x4400005301F14C, 0x5300005301F14D, 0x5600005000005001F14E, 0x4300005701F14F,
    0x4300004D01F16A, 0x4400004D01F16B, 0x5200004D01F16C, 0x4A00004401F190, 0x304B00307B01F200,
    0x30B30030B301F201, 0x30B501F202, 0x624B01F210, 0x5B5701F211, 0x53CC01F212, 0x30990030C601F213,
    0x4E8C01F214, 0x591A01F215, 0x89E301F216, 0x592901F217, 0x4EA401F218, 0x662001F219,
    0x712101F21A, 0x659901F21B, 0x524D01F21C, 0x5F8C01F21D, 0x518D01F21E, 0x65B001F21F,
    0x521D01F220, 0x7D4201F221, 0x751F01F222, 0x8CA901F223, 0x58F001F224, 0x543901F225,
    0x6F1401F226, 0x629501F227, 0x635501F228, 0x4E0001F229, 0x4E0901F22A, 0x904A01F22B,
    0x5DE601F22C, 0x4E2D01F22D, 0x53F301F22E, 0x630701F22F, 0x8D7001F230, 0x625301F231,
    0x798101F232, 0x7A7A01F233, 0x540801F234, 0x6E8001F235, 0x670901F236, 0x670801F237,
    0x753301F238, 0x527201F239, 0x55B601F23A, 0x914D01F23B, 0x301500672C00301401F240,
    0x3015004E0900301401F241, 0x3015004E8C00301401F242, 0x3015005B8900301401F243,
    0x30150070B900301401F244, 0x301500625300301401F245, 0x30150076D700301401F246,
    0x30150052DD00301401F247, 0x301500655700301401F248, 0x5F9701F250, 0x53EF01F251, 0x3001FBF0,
    0x3101FBF1, 0x3201FBF2, 0x3301FBF3, 0x3401FBF4, 0x3501FBF5, 0x3601FBF6, 0x3701FBF7, 0x3801FBF8,
    0x3901FBF9])]

/-- The supplementary compatibility ideographs, from U+20000 on. -/
def supplementaryDecompositions : PackedTable := [
  (0x2F8F9, [
    0x4E3D02F800, 0x4E3802F801, 0x4E4102F802, 0x2012202F803, 0x4F6002F804, 0x4FAE02F805,
    0x4FBB02F806, 0x500202F807, 0x507A02F808, 0x509902F809, 0x50E702F80A, 0x50CF02F80B,
    0x349E02F80C, 0x2063A02F80D, 0x514D02F80E, 0x515402F80F, 0x516402F810, 0x517702F811,
    0x2051C02F812, 0x34B902F813, 0x516702F814, 0x518D02F815, 0x2054B02F816, 0x519702F817,
    0x51A402F818, 0x4ECC02F819, 0x51AC02F81A, 0x51B502F81B, 0x291DF02F81C, 0x51F502F81D,
    0x520302F81E, 0x34DF02F81F, 0x523B02F820, 0x524602F821, 0x527202F822, 0x527702F823,
    0x351502F824, 0x52C702F825, 0x52C902F826, 0x52E402F827, 0x52FA02F828, 0x530502F829,
    0x530602F82A, 0x531702F82B, 0x534902F82C, 0x535102F82D, 0x535A02F82E, 0x537302F82F,
    0x537D02F830, 0x537F02F831, 0x537F02F832, 0x537F02F833, 0x20A2C02F834, 0x707002F835,
    0x53CA02F836, 0x53DF02F837, 0x20B6302F838, 0x53EB02F839, 0x53F102F83A, 0x540602F83B,
    0x549E02F83C, 0x543802F83D, 0x544802F83E, 0x546802F83F, 0x54A202F840, 0x54F602F841,
    0x551002F842, 0x555302F843, 0x556302F844, 0x558402F845, 0x558402F846, 0x559902F847,
    0x55AB02F848, 0x55B302F849, 0x55C202F84A, 0x571602F84B, 0x560602F84C, 0x571702F84D,
    0x565102F84E, 0x567402F84F, 0x520702F850, 0x58EE02F851, 0x57CE02F852, 0x57F402F853,
    0x580D02F854, 0x578B02F855, 0x583202F856, 0x583102F857, 0x58AC02F858, 0x214E402F859,
    0x58F202F85A, 0x58F702F85B, 0x590602F85C, 0x591A02F85D, 0x592202F85E, 0x596202F85F,
    0x216A802F860, 0x216EA02F861, 0x59EC02F862, 0x5A1B02F863, 0x5A2702F864, 0x59D802F865,
    0x5A6602F866, 0x36EE02F867, 0x36FC02F868, 0x5B0802F869, 0x5B3E02F86A, 0x5B3E02F86B,
    0x219C802F86C, 0x5BC302F86D, 0x5BD802F86E, 0x5BE702F86F, 0x5BF302F870, 0x21B1802F871,
    0x5BFF02F872, 0x5C0602F873, 0x5F5302F874, 0x5C2202F875, 0x378102F876, 0x5C6002F877,
    0x5C6E02F878, 0x5CC002F879, 0x5C8D02F87A, 0x21DE402F87B, 0x5D4302F87C, 0x21DE602F87D,
    0x5D6E02F87E, 0x5D6B02F87F, 0x5D7C02F880, 0x5DE102F881, 0x5DE202F882, 0x382F02F883,
    0x5DFD02F884, 0x5E2802F885, 0x5E3D02F886, 0x5E6902F887, 0x386202F888, 0x2218302F889,
    0x387C02F88A, 0x5EB002F88B, 0x5EB302F88C, 0x5EB602F88D, 0x5ECA02F88E, 0x2A39202F88F,
    0x5EFE02F890, 0x2233102F891, 0x2233102F892, 0x820102F893, 0x5F2202F894, 0x5F2202F895,
    0x38C702F896, 0x232B802F897, 0x261DA02F898, 0x5F6202F899, 0x5F6B02F89A, 0x38E302F89B,
    0x5F9A02F89C, 0x5FCD02F89D, 0x5FD702F89E, 0x5FF902F89F, 0x608102F8A0, 0x393A02F8A1,
    0x391C02F8A2, 0x609402F8A3, 0x226D402F8A4, 0x60C702F8A5, 0x614802F8A6, 0x614C02F8A7,
    0x614E02F8A8, 0x614C02F8A9, 0x617A02F8AA, 0x618E02F8AB, 0x61B202F8AC, 0x61A402F8AD,
    0x61AF02F8AE, 0x61DE02F8AF, 0x61F202F8B0, 0x61F602F8B1, 0x621002F8B2, 0x621B02F8B3,
    0x625D02F8B4, 0x62B102F8B5, 0x62D402F8B6, 0x635002F8B7, 0x22B0C02F8B8, 0x633D02F8B9,
    0x62FC02F8BA, 0x636802F8BB, 0x638302F8BC, 0x63E402F8BD, 0x22BF102F8BE, 0x642202F8BF,
    0x63C502F8C0, 0x63A902F8C1, 0x3A2E02F8C2, 0x646902F8C3, 0x647E02F8C4, 0x649D02F8C5,
    0x647702F8C6, 0x3A6C02F8C7, 0x654F02F8C8, 0x656C02F8C9, 0x2300A02F8CA, 0x65E302F8CB,
    0x66F802F8CC, 0x664902F8CD, 0x3B1902F8CE, 0x669102F8CF, 0x3B0802F8D0, 0x3AE402F8D1,
    0x519202F8D2, 0x519502F8D3, 0x670002F8D4, 0x669C02F8D5, 0x80AD02F8D6, 0x43D902F8D7,
    0x671702F8D8, 0x671B02F8D9, 0x672102F8DA, 0x675E02F8DB, 0x675302F8DC, 0x233C302F8DD,
    0x3B4902F8DE, 0x67FA02F8DF, 0x678502F8E0, 0x685202F8E1, 0x688502F8E2, 0x2346D02F8E3,
    0x688E02F8E4, 0x681F02F8E5, 0x691402F8E6, 0x3B9D02F8E7, 0x694202F8E8, 0x69A302F8E9,
    0x69EA02F8EA, 0x6AA802F8EB, 0x236A302F8EC, 0x6ADB02F8ED, 0x3C1802F8EE, 0x6B2102F8EF,
    0x238A702F8F0, 0x6B5402F8F1, 0x3C4E02F8F2, 0x6B7202F8F3, 0x6B9F02F8F4, 0x6BBA02F8F5,
    0x6BBB02F8F6, 0x23A8D02F8F7, 0x21D0B02F8F8, 0x23AFA02F8F9]),
  (0x2F9F3, [
    0x6C4E02F8FA, 0x23CBC02F8FB, 0x6CBF02F8FC, 0x6CCD02F8FD, 0x6C6702F8FE, 0x6D1602F8FF,
    0x6D3E02F900, 0x6D7702F901, 0x6D4102F902, 0x6D6902F903, 0x6D7802F904, 0x6D8502F905,
    0x23D1E02F906, 0x6D3402F907, 0x6E2F02F908, 0x6E6E02F909, 0x3D3302F90A, 0x6ECB02F90B,
    0x6EC702F90C, 0x23ED102F90D, 0x6DF902F90E, 0x6F6E02F90F, 0x23F5E02F910, 0x23F8E02F911,
    0x6FC602F912, 0x703902F913, 0x701E02F914, 0x701B02F915, 0x3D9602F916, 0x704A02F917,
    0x707D02F918, 0x707702F919, 0x70AD02F91A, 0x2052502F91B, 0x714502F91C, 0x2426302F91D,
    0x719C02F91E, 0x243AB02F91F, 0x722802F920, 0x723502F921, 0x725002F922, 0x2460802F923,
    0x728002F924, 0x729502F925, 0x2473502F926, 0x2481402F927, 0x737A02F928, 0x738B02F929,
    0x3EAC02F92A, 0x73A502F92B, 0x3EB802F92C, 0x3EB802F92D, 0x744702F92E, 0x745C02F92F,
    0x747102F930, 0x748502F931, 0x74CA02F932, 0x3F1B02F933, 0x752402F934, 0x24C3602F935,
    0x753E02F936, 0x24C9202F937, 0x757002F938, 0x2219F02F939, 0x761002F93A, 0x24FA102F93B,
    0x24FB802F93C, 0x2504402F93D, 0x3FFC02F93E, 0x400802F93F, 0x76F402F940, 0x250F302F941,
    0x250F202F942, 0x2511902F943, 0x2513302F944, 0x771E02F945, 0x771F02F946, 0x771F02F947,
    0x774A02F948, 0x403902F949, 0x778B02F94A, 0x404602F94B, 0x409602F94C, 0x2541D02F94D,
    0x784E02F94E, 0x788C02F94F, 0x78CC02F950, 0x40E302F951, 0x2562602F952, 0x795602F953,
    0x2569A02F954, 0x256C502F955, 0x798F02F956, 0x79EB02F957, 0x412F02F958, 0x7A4002F959,
    0x7A4A02F95A, 0x7A4F02F95B, 0x2597C02F95C, 0x25AA702F95D, 0x25AA702F95E, 0x7AEE02F95F,
    0x420202F960, 0x25BAB02F961, 0x7BC602F962, 0x7BC902F963, 0x422702F964, 0x25C8002F965,
    0x7CD202F966, 0x42A002F967, 0x7CE802F968, 0x7CE302F969, 0x7D0002F96A, 0x25F8602F96B,
    0x7D6302F96C, 0x430102F96D, 0x7DC702F96E, 0x7E0202F96F, 0x7E4502F970, 0x433402F971,
    0x2622802F972, 0x2624702F973, 0x435902F974, 0x262D902F975, 0x7F7A02F976, 0x2633E02F977,
    0x7F9502F978, 0x7FFA02F979, 0x800502F97A, 0x264DA02F97B, 0x2652302F97C, 0x806002F97D,
    0x265A802F97E, 0x807002F97F, 0x2335F02F980, 0x43D502F981, 0x80B202F982, 0x810302F983,
    0x440B02F984, 0x813E02F985, 0x5AB502F986, 0x267A702F987, 0x267B502F988, 0x2339302F989,
    0x2339C02F98A, 0x820102F98B, 0x820402F98C, 0x8F9E02F98D, 0x446B02F98E, 0x829102F98F,
    0x828B02F990, 0x829D02F991, 0x52B302F992, 0x82B102F993, 0x82B302F994, 0x82BD02F995,
    0x82E602F996, 0x26B3C02F997, 0x82E502F998, 0x831D02F999, 0x836302F99A, 0x83AD02F99B,
    0x832302F99C, 0x83BD02F99D, 0x83E702F99E, 0x845702F99F, 0x835302F9A0, 0x83CA02F9A1,
    0x83CC02F9A2, 0x83DC02F9A3, 0x26C3602F9A4, 0x26D6B02F9A5, 0x26CD502F9A6, 0x452B02F9A7,
    0x84F102F9A8, 0x84F302F9A9, 0x851602F9AA, 0x273CA02F9AB, 0x856402F9AC, 0x26F2C02F9AD,
    0x455D02F9AE, 0x456102F9AF, 0x26FB102F9B0, 0x270D202F9B1, 0x456B02F9B2, 0x865002F9B3,
    0x865C02F9B4, 0x866702F9B5, 0x866902F9B6, 0x86A902F9B7, 0x868802F9B8, 0x870E02F9B9,
    0x86E202F9BA, 0x877902F9BB, 0x872802F9BC, 0x876B02F9BD, 0x878602F9BE, 0x45D702F9BF,
    0x87E102F9C0, 0x880102F9C1, 0x45F902F9C2, 0x886002F9C3, 0x886302F9C4, 0x2766702F9C5,
    0x88D702F9C6, 0x88DE02F9C7, 0x463502F9C8, 0x88FA02F9C9, 0x34BB02F9CA, 0x278AE02F9CB,
    0x2796602F9CC, 0x46BE02F9CD, 0x46C702F9CE, 0x8AA002F9CF, 0x8AED02F9D0, 0x8B8A02F9D1,
    0x8C5502F9D2, 0x27CA802F9D3, 0x8CAB02F9D4, 0x8CC102F9D5, 0x8D1B02F9D6, 0x8D7702F9D7,
    0x27F2F02F9D8, 0x2080402F9D9, 0x8DCB02F9DA, 0x8DBC02F9DB, 0x8DF002F9DC, 0x208DE02F9DD,
    0x8ED402F9DE, 0x8F3802F9DF, 0x285D202F9E0, 0x285ED02F9E1, 0x909402F9E2, 0x90F102F9E3,
    0x911102F9E4, 0x2872E02F9E5, 0x911B02F9E6, 0x923802F9E7, 0x92D702F9E8, 0x92D802F9E9,
    0x927C02F9EA, 0x93F902F9EB, 0x941502F9EC, 0x28BFA02F9ED, 0x958B02F9EE, 0x499502F9EF,
    0x95B702F9F0, 0x28D7702F9F1, 0x49E602F9F2, 0x96C302F9F3]),
  (0x2FA1D, [
    0x5DB202F9F4, 0x972302F9F5, 0x2914502F9F6, 0x2921A02F9F7, 0x4A6E02F9F8, 0x4A7602F9F9,
    0x97E002F9FA, 0x2940A02F9FB, 0x4AB202F9FC, 0x2949602F9FD, 0x980B02F9FE, 0x980B02F9FF,
    0x982902FA00, 0x295B602FA01, 0x98E202FA02, 0x4B3302FA03, 0x992902FA04, 0x99A702FA05,
    0x99C202FA06, 0x99FE02FA07, 0x4BCE02FA08, 0x29B3002FA09, 0x9B1202FA0A, 0x9C4002FA0B,
    0x9CFD02FA0C, 0x4CCE02FA0D, 0x4CED02FA0E, 0x9D6702FA0F, 0x2A0CE02FA10, 0x4CF802FA11,
    0x2A10502FA12, 0x2A20E02FA13, 0x2A29102FA14, 0x9EBB02FA15, 0x4D5602FA16, 0x9EF902FA17,
    0x9EFE02FA18, 0x9F0502FA19, 0x9F0F02FA1A, 0x9F1602FA1B, 0x9F3B02FA1C, 0x2A60002FA1D])]

/-- Full compatibility decompositions of Unicode 14.0, Hangul syllables left out. -/
def decompositions : PackedTable :=
  letterDecompositions ++ symbolDecompositions ++ ideographDecompositions
    ++ formDecompositions ++ styledDecompositions ++ supplementaryDecompositions

/-- The syllable with this number, counted from the first Hangul syllable, as its letters. -/
def hangulLetters (number : Nat) : List Char :=
  let lead := Char.ofNat (0x1100 + number / 588)
  let vowel := Char.ofNat (0x1161 + number % 588 / 28)
  let tail := number % 28
  if tail = 0 then [lead, vowel] else [lead, vowel, Char.ofNat (0x11A7 + tail)]

/-- The full compatibility decomposition of a character that does not stand for itself. -/
def decompose (c : Char) : Option (List Char) :=
  if c.toNat < 0xA0 then none
  else if 0xAC00 ≤ c.toNat ∧ c.toNat ≤ 0xD7A3 then some (hangulLetters (c.toNat - 0xAC00))
  else decompositions.find? c

end MarkdownCheck.Unicode
