namespace LispCalls.Text

abbrev Ranges := List (Nat × Nat)

def Ranges.has (ranges : Ranges) (c : Char) : Bool :=
  ranges.any fun range => range.1 ≤ c.toNat && c.toNat ≤ range.2

-- What a version of Unicode says of characters outside ASCII: which of them extend the one before
-- (Grapheme_Extend), and which are never printed (the general categories C and Z).
structure Repertoire where
  extending : Ranges
  unprinted : Ranges

-- Unicode 17.
def extendingRanges : Ranges :=
  [(0x300,0x36F),(0x483,0x489),(0x591,0x5BD),(0x5BF,0x5BF),(0x5C1,0x5C2),(0x5C4,0x5C5),
    (0x5C7,0x5C7),(0x610,0x61A),(0x64B,0x65F),(0x670,0x670),(0x6D6,0x6DC),(0x6DF,0x6E4),
    (0x6E7,0x6E8),(0x6EA,0x6ED),(0x711,0x711),(0x730,0x74A),(0x7A6,0x7B0),(0x7EB,0x7F3),
    (0x7FD,0x7FD),(0x816,0x819),(0x81B,0x823),(0x825,0x827),(0x829,0x82D),(0x859,0x85B),
    (0x897,0x89F),(0x8CA,0x8E1),(0x8E3,0x902),(0x93A,0x93A),(0x93C,0x93C),(0x941,0x948),
    (0x94D,0x94D),(0x951,0x957),(0x962,0x963),(0x981,0x981),(0x9BC,0x9BC),(0x9BE,0x9BE),
    (0x9C1,0x9C4),(0x9CD,0x9CD),(0x9D7,0x9D7),(0x9E2,0x9E3),(0x9FE,0x9FE),(0xA01,0xA02),
    (0xA3C,0xA3C),(0xA41,0xA42),(0xA47,0xA48),(0xA4B,0xA4D),(0xA51,0xA51),(0xA70,0xA71),
    (0xA75,0xA75),(0xA81,0xA82),(0xABC,0xABC),(0xAC1,0xAC5),(0xAC7,0xAC8),(0xACD,0xACD),
    (0xAE2,0xAE3),(0xAFA,0xAFF),(0xB01,0xB01),(0xB3C,0xB3C),(0xB3E,0xB3F),(0xB41,0xB44),
    (0xB4D,0xB4D),(0xB55,0xB57),(0xB62,0xB63),(0xB82,0xB82),(0xBBE,0xBBE),(0xBC0,0xBC0),
    (0xBCD,0xBCD),(0xBD7,0xBD7),(0xC00,0xC00),(0xC04,0xC04),(0xC3C,0xC3C),(0xC3E,0xC40),
    (0xC46,0xC48),(0xC4A,0xC4D),(0xC55,0xC56),(0xC62,0xC63),(0xC81,0xC81),(0xCBC,0xCBC),
    (0xCBF,0xCC0),(0xCC2,0xCC2),(0xCC6,0xCC8),(0xCCA,0xCCD),(0xCD5,0xCD6),(0xCE2,0xCE3),
    (0xD00,0xD01),(0xD3B,0xD3C),(0xD3E,0xD3E),(0xD41,0xD44),(0xD4D,0xD4D),(0xD57,0xD57),
    (0xD62,0xD63),(0xD81,0xD81),(0xDCA,0xDCA),(0xDCF,0xDCF),(0xDD2,0xDD4),(0xDD6,0xDD6),
    (0xDDF,0xDDF),(0xE31,0xE31),(0xE34,0xE3A),(0xE47,0xE4E),(0xEB1,0xEB1),(0xEB4,0xEBC),
    (0xEC8,0xECE),(0xF18,0xF19),(0xF35,0xF35),(0xF37,0xF37),(0xF39,0xF39),(0xF71,0xF7E),
    (0xF80,0xF84),(0xF86,0xF87),(0xF8D,0xF97),(0xF99,0xFBC),(0xFC6,0xFC6),(0x102D,0x1030),
    (0x1032,0x1037),(0x1039,0x103A),(0x103D,0x103E),(0x1058,0x1059),(0x105E,0x1060),(0x1071,0x1074),
    (0x1082,0x1082),(0x1085,0x1086),(0x108D,0x108D),(0x109D,0x109D),(0x135D,0x135F),(0x1712,0x1715),
    (0x1732,0x1734),(0x1752,0x1753),(0x1772,0x1773),(0x17B4,0x17B5),(0x17B7,0x17BD),(0x17C6,0x17C6),
    (0x17C9,0x17D3),(0x17DD,0x17DD),(0x180B,0x180D),(0x180F,0x180F),(0x1885,0x1886),(0x18A9,0x18A9),
    (0x1920,0x1922),(0x1927,0x1928),(0x1932,0x1932),(0x1939,0x193B),(0x1A17,0x1A18),(0x1A1B,0x1A1B),
    (0x1A56,0x1A56),(0x1A58,0x1A5E),(0x1A60,0x1A60),(0x1A62,0x1A62),(0x1A65,0x1A6C),(0x1A73,0x1A7C),
    (0x1A7F,0x1A7F),(0x1AB0,0x1ADD),(0x1AE0,0x1AEB),(0x1B00,0x1B03),(0x1B34,0x1B3D),(0x1B42,0x1B44),
    (0x1B6B,0x1B73),(0x1B80,0x1B81),(0x1BA2,0x1BA5),(0x1BA8,0x1BAD),(0x1BE6,0x1BE6),(0x1BE8,0x1BE9),
    (0x1BED,0x1BED),(0x1BEF,0x1BF3),(0x1C2C,0x1C33),(0x1C36,0x1C37),(0x1CD0,0x1CD2),(0x1CD4,0x1CE0),
    (0x1CE2,0x1CE8),(0x1CED,0x1CED),(0x1CF4,0x1CF4),(0x1CF8,0x1CF9),(0x1DC0,0x1DFF),(0x200C,0x200C),
    (0x20D0,0x20F0),(0x2CEF,0x2CF1),(0x2D7F,0x2D7F),(0x2DE0,0x2DFF),(0x302A,0x302F),(0x3099,0x309A),
    (0xA66F,0xA672),(0xA674,0xA67D),(0xA69E,0xA69F),(0xA6F0,0xA6F1),(0xA802,0xA802),(0xA806,0xA806),
    (0xA80B,0xA80B),(0xA825,0xA826),(0xA82C,0xA82C),(0xA8C4,0xA8C5),(0xA8E0,0xA8F1),(0xA8FF,0xA8FF),
    (0xA926,0xA92D),(0xA947,0xA951),(0xA953,0xA953),(0xA980,0xA982),(0xA9B3,0xA9B3),(0xA9B6,0xA9B9),
    (0xA9BC,0xA9BD),(0xA9C0,0xA9C0),(0xA9E5,0xA9E5),(0xAA29,0xAA2E),(0xAA31,0xAA32),(0xAA35,0xAA36),
    (0xAA43,0xAA43),(0xAA4C,0xAA4C),(0xAA7C,0xAA7C),(0xAAB0,0xAAB0),(0xAAB2,0xAAB4),(0xAAB7,0xAAB8),
    (0xAABE,0xAABF),(0xAAC1,0xAAC1),(0xAAEC,0xAAED),(0xAAF6,0xAAF6),(0xABE5,0xABE5),(0xABE8,0xABE8),
    (0xABED,0xABED),(0xFB1E,0xFB1E),(0xFE00,0xFE0F),(0xFE20,0xFE2F),(0xFF9E,0xFF9F),
    (0x101FD,0x101FD),(0x102E0,0x102E0),(0x10376,0x1037A),(0x10A01,0x10A03),(0x10A05,0x10A06),
    (0x10A0C,0x10A0F),(0x10A38,0x10A3A),(0x10A3F,0x10A3F),(0x10AE5,0x10AE6),(0x10D24,0x10D27),
    (0x10D69,0x10D6D),(0x10EAB,0x10EAC),(0x10EFA,0x10EFF),(0x10F46,0x10F50),(0x10F82,0x10F85),
    (0x11001,0x11001),(0x11038,0x11046),(0x11070,0x11070),(0x11073,0x11074),(0x1107F,0x11081),
    (0x110B3,0x110B6),(0x110B9,0x110BA),(0x110C2,0x110C2),(0x11100,0x11102),(0x11127,0x1112B),
    (0x1112D,0x11134),(0x11173,0x11173),(0x11180,0x11181),(0x111B6,0x111BE),(0x111C0,0x111C0),
    (0x111C9,0x111CC),(0x111CF,0x111CF),(0x1122F,0x11231),(0x11234,0x11237),(0x1123E,0x1123E),
    (0x11241,0x11241),(0x112DF,0x112DF),(0x112E3,0x112EA),(0x11300,0x11301),(0x1133B,0x1133C),
    (0x1133E,0x1133E),(0x11340,0x11340),(0x1134D,0x1134D),(0x11357,0x11357),(0x11366,0x1136C),
    (0x11370,0x11374),(0x113B8,0x113B8),(0x113BB,0x113C0),(0x113C2,0x113C2),(0x113C5,0x113C5),
    (0x113C7,0x113C9),(0x113CE,0x113D0),(0x113D2,0x113D2),(0x113E1,0x113E2),(0x11438,0x1143F),
    (0x11442,0x11444),(0x11446,0x11446),(0x1145E,0x1145E),(0x114B0,0x114B0),(0x114B3,0x114B8),
    (0x114BA,0x114BA),(0x114BD,0x114BD),(0x114BF,0x114C0),(0x114C2,0x114C3),(0x115AF,0x115AF),
    (0x115B2,0x115B5),(0x115BC,0x115BD),(0x115BF,0x115C0),(0x115DC,0x115DD),(0x11633,0x1163A),
    (0x1163D,0x1163D),(0x1163F,0x11640),(0x116AB,0x116AB),(0x116AD,0x116AD),(0x116B0,0x116B7),
    (0x1171D,0x1171D),(0x1171F,0x1171F),(0x11722,0x11725),(0x11727,0x1172B),(0x1182F,0x11837),
    (0x11839,0x1183A),(0x11930,0x11930),(0x1193B,0x1193E),(0x11943,0x11943),(0x119D4,0x119D7),
    (0x119DA,0x119DB),(0x119E0,0x119E0),(0x11A01,0x11A0A),(0x11A33,0x11A38),(0x11A3B,0x11A3E),
    (0x11A47,0x11A47),(0x11A51,0x11A56),(0x11A59,0x11A5B),(0x11A8A,0x11A96),(0x11A98,0x11A99),
    (0x11B60,0x11B60),(0x11B62,0x11B64),(0x11B66,0x11B66),(0x11C30,0x11C36),(0x11C38,0x11C3D),
    (0x11C3F,0x11C3F),(0x11C92,0x11CA7),(0x11CAA,0x11CB0),(0x11CB2,0x11CB3),(0x11CB5,0x11CB6),
    (0x11D31,0x11D36),(0x11D3A,0x11D3A),(0x11D3C,0x11D3D),(0x11D3F,0x11D45),(0x11D47,0x11D47),
    (0x11D90,0x11D91),(0x11D95,0x11D95),(0x11D97,0x11D97),(0x11EF3,0x11EF4),(0x11F00,0x11F01),
    (0x11F36,0x11F3A),(0x11F40,0x11F42),(0x11F5A,0x11F5A),(0x13440,0x13440),(0x13447,0x13455),
    (0x1611E,0x16129),(0x1612D,0x1612F),(0x16AF0,0x16AF4),(0x16B30,0x16B36),(0x16F4F,0x16F4F),
    (0x16F8F,0x16F92),(0x16FE4,0x16FE4),(0x16FF0,0x16FF1),(0x1BC9D,0x1BC9E),(0x1CF00,0x1CF2D),
    (0x1CF30,0x1CF46),(0x1D165,0x1D169),(0x1D16D,0x1D172),(0x1D17B,0x1D182),(0x1D185,0x1D18B),
    (0x1D1AA,0x1D1AD),(0x1D242,0x1D244),(0x1DA00,0x1DA36),(0x1DA3B,0x1DA6C),(0x1DA75,0x1DA75),
    (0x1DA84,0x1DA84),(0x1DA9B,0x1DA9F),(0x1DAA1,0x1DAAF),(0x1E000,0x1E006),(0x1E008,0x1E018),
    (0x1E01B,0x1E021),(0x1E023,0x1E024),(0x1E026,0x1E02A),(0x1E08F,0x1E08F),(0x1E130,0x1E136),
    (0x1E2AE,0x1E2AE),(0x1E2EC,0x1E2EF),(0x1E4EC,0x1E4EF),(0x1E5EE,0x1E5EF),(0x1E6E3,0x1E6E3),
    (0x1E6E6,0x1E6E6),(0x1E6EE,0x1E6EF),(0x1E6F5,0x1E6F5),(0x1E8D0,0x1E8D6),(0x1E944,0x1E94A),
    (0xE0020,0xE007F),(0xE0100,0xE01EF)]

def unprintedRanges : Ranges :=
  [(0x00,0x1F),(0x7F,0xA0),(0xAD,0xAD),(0x378,0x379),(0x380,0x383),(0x38B,0x38B),(0x38D,0x38D),
    (0x3A2,0x3A2),(0x530,0x530),(0x557,0x558),(0x58B,0x58C),(0x590,0x590),(0x5C8,0x5CF),
    (0x5EB,0x5EE),(0x5F5,0x605),(0x61C,0x61C),(0x6DD,0x6DD),(0x70E,0x70F),(0x74B,0x74C),
    (0x7B2,0x7BF),(0x7FB,0x7FC),(0x82E,0x82F),(0x83F,0x83F),(0x85C,0x85D),(0x85F,0x85F),
    (0x86B,0x86F),(0x890,0x896),(0x8E2,0x8E2),(0x984,0x984),(0x98D,0x98E),(0x991,0x992),
    (0x9A9,0x9A9),(0x9B1,0x9B1),(0x9B3,0x9B5),(0x9BA,0x9BB),(0x9C5,0x9C6),(0x9C9,0x9CA),
    (0x9CF,0x9D6),(0x9D8,0x9DB),(0x9DE,0x9DE),(0x9E4,0x9E5),(0x9FF,0xA00),(0xA04,0xA04),
    (0xA0B,0xA0E),(0xA11,0xA12),(0xA29,0xA29),(0xA31,0xA31),(0xA34,0xA34),(0xA37,0xA37),
    (0xA3A,0xA3B),(0xA3D,0xA3D),(0xA43,0xA46),(0xA49,0xA4A),(0xA4E,0xA50),(0xA52,0xA58),
    (0xA5D,0xA5D),(0xA5F,0xA65),(0xA77,0xA80),(0xA84,0xA84),(0xA8E,0xA8E),(0xA92,0xA92),
    (0xAA9,0xAA9),(0xAB1,0xAB1),(0xAB4,0xAB4),(0xABA,0xABB),(0xAC6,0xAC6),(0xACA,0xACA),
    (0xACE,0xACF),(0xAD1,0xADF),(0xAE4,0xAE5),(0xAF2,0xAF8),(0xB00,0xB00),(0xB04,0xB04),
    (0xB0D,0xB0E),(0xB11,0xB12),(0xB29,0xB29),(0xB31,0xB31),(0xB34,0xB34),(0xB3A,0xB3B),
    (0xB45,0xB46),(0xB49,0xB4A),(0xB4E,0xB54),(0xB58,0xB5B),(0xB5E,0xB5E),(0xB64,0xB65),
    (0xB78,0xB81),(0xB84,0xB84),(0xB8B,0xB8D),(0xB91,0xB91),(0xB96,0xB98),(0xB9B,0xB9B),
    (0xB9D,0xB9D),(0xBA0,0xBA2),(0xBA5,0xBA7),(0xBAB,0xBAD),(0xBBA,0xBBD),(0xBC3,0xBC5),
    (0xBC9,0xBC9),(0xBCE,0xBCF),(0xBD1,0xBD6),(0xBD8,0xBE5),(0xBFB,0xBFF),(0xC0D,0xC0D),
    (0xC11,0xC11),(0xC29,0xC29),(0xC3A,0xC3B),(0xC45,0xC45),(0xC49,0xC49),(0xC4E,0xC54),
    (0xC57,0xC57),(0xC5B,0xC5B),(0xC5E,0xC5F),(0xC64,0xC65),(0xC70,0xC76),(0xC8D,0xC8D),
    (0xC91,0xC91),(0xCA9,0xCA9),(0xCB4,0xCB4),(0xCBA,0xCBB),(0xCC5,0xCC5),(0xCC9,0xCC9),
    (0xCCE,0xCD4),(0xCD7,0xCDB),(0xCDF,0xCDF),(0xCE4,0xCE5),(0xCF0,0xCF0),(0xCF4,0xCFF),
    (0xD0D,0xD0D),(0xD11,0xD11),(0xD45,0xD45),(0xD49,0xD49),(0xD50,0xD53),(0xD64,0xD65),
    (0xD80,0xD80),(0xD84,0xD84),(0xD97,0xD99),(0xDB2,0xDB2),(0xDBC,0xDBC),(0xDBE,0xDBF),
    (0xDC7,0xDC9),(0xDCB,0xDCE),(0xDD5,0xDD5),(0xDD7,0xDD7),(0xDE0,0xDE5),(0xDF0,0xDF1),
    (0xDF5,0xE00),(0xE3B,0xE3E),(0xE5C,0xE80),(0xE83,0xE83),(0xE85,0xE85),(0xE8B,0xE8B),
    (0xEA4,0xEA4),(0xEA6,0xEA6),(0xEBE,0xEBF),(0xEC5,0xEC5),(0xEC7,0xEC7),(0xECF,0xECF),
    (0xEDA,0xEDB),(0xEE0,0xEFF),(0xF48,0xF48),(0xF6D,0xF70),(0xF98,0xF98),(0xFBD,0xFBD),
    (0xFCD,0xFCD),(0xFDB,0xFFF),(0x10C6,0x10C6),(0x10C8,0x10CC),(0x10CE,0x10CF),(0x1249,0x1249),
    (0x124E,0x124F),(0x1257,0x1257),(0x1259,0x1259),(0x125E,0x125F),(0x1289,0x1289),(0x128E,0x128F),
    (0x12B1,0x12B1),(0x12B6,0x12B7),(0x12BF,0x12BF),(0x12C1,0x12C1),(0x12C6,0x12C7),(0x12D7,0x12D7),
    (0x1311,0x1311),(0x1316,0x1317),(0x135B,0x135C),(0x137D,0x137F),(0x139A,0x139F),(0x13F6,0x13F7),
    (0x13FE,0x13FF),(0x1680,0x1680),(0x169D,0x169F),(0x16F9,0x16FF),(0x1716,0x171E),(0x1737,0x173F),
    (0x1754,0x175F),(0x176D,0x176D),(0x1771,0x1771),(0x1774,0x177F),(0x17DE,0x17DF),(0x17EA,0x17EF),
    (0x17FA,0x17FF),(0x180E,0x180E),(0x181A,0x181F),(0x1879,0x187F),(0x18AB,0x18AF),(0x18F6,0x18FF),
    (0x191F,0x191F),(0x192C,0x192F),(0x193C,0x193F),(0x1941,0x1943),(0x196E,0x196F),(0x1975,0x197F),
    (0x19AC,0x19AF),(0x19CA,0x19CF),(0x19DB,0x19DD),(0x1A1C,0x1A1D),(0x1A5F,0x1A5F),(0x1A7D,0x1A7E),
    (0x1A8A,0x1A8F),(0x1A9A,0x1A9F),(0x1AAE,0x1AAF),(0x1ADE,0x1ADF),(0x1AEC,0x1AFF),(0x1B4D,0x1B4D),
    (0x1BF4,0x1BFB),(0x1C38,0x1C3A),(0x1C4A,0x1C4C),(0x1C8B,0x1C8F),(0x1CBB,0x1CBC),(0x1CC8,0x1CCF),
    (0x1CFB,0x1CFF),(0x1F16,0x1F17),(0x1F1E,0x1F1F),(0x1F46,0x1F47),(0x1F4E,0x1F4F),(0x1F58,0x1F58),
    (0x1F5A,0x1F5A),(0x1F5C,0x1F5C),(0x1F5E,0x1F5E),(0x1F7E,0x1F7F),(0x1FB5,0x1FB5),(0x1FC5,0x1FC5),
    (0x1FD4,0x1FD5),(0x1FDC,0x1FDC),(0x1FF0,0x1FF1),(0x1FF5,0x1FF5),(0x1FFF,0x200F),(0x2028,0x202F),
    (0x205F,0x206F),(0x2072,0x2073),(0x208F,0x208F),(0x209D,0x209F),(0x20C2,0x20CF),(0x20F1,0x20FF),
    (0x218C,0x218F),(0x242A,0x243F),(0x244B,0x245F),(0x2B74,0x2B75),(0x2CF4,0x2CF8),(0x2D26,0x2D26),
    (0x2D28,0x2D2C),(0x2D2E,0x2D2F),(0x2D68,0x2D6E),(0x2D71,0x2D7E),(0x2D97,0x2D9F),(0x2DA7,0x2DA7),
    (0x2DAF,0x2DAF),(0x2DB7,0x2DB7),(0x2DBF,0x2DBF),(0x2DC7,0x2DC7),(0x2DCF,0x2DCF),(0x2DD7,0x2DD7),
    (0x2DDF,0x2DDF),(0x2E5E,0x2E7F),(0x2E9A,0x2E9A),(0x2EF4,0x2EFF),(0x2FD6,0x2FEF),(0x3000,0x3000),
    (0x3040,0x3040),(0x3097,0x3098),(0x3100,0x3104),(0x3130,0x3130),(0x318F,0x318F),(0x31E6,0x31EE),
    (0x321F,0x321F),(0xA48D,0xA48F),(0xA4C7,0xA4CF),(0xA62C,0xA63F),(0xA6F8,0xA6FF),(0xA7DD,0xA7F0),
    (0xA82D,0xA82F),(0xA83A,0xA83F),(0xA878,0xA87F),(0xA8C6,0xA8CD),(0xA8DA,0xA8DF),(0xA954,0xA95E),
    (0xA97D,0xA97F),(0xA9CE,0xA9CE),(0xA9DA,0xA9DD),(0xA9FF,0xA9FF),(0xAA37,0xAA3F),(0xAA4E,0xAA4F),
    (0xAA5A,0xAA5B),(0xAAC3,0xAADA),(0xAAF7,0xAB00),(0xAB07,0xAB08),(0xAB0F,0xAB10),(0xAB17,0xAB1F),
    (0xAB27,0xAB27),(0xAB2F,0xAB2F),(0xAB6C,0xAB6F),(0xABEE,0xABEF),(0xABFA,0xABFF),(0xD7A4,0xD7AF),
    (0xD7C7,0xD7CA),(0xD7FC,0xF8FF),(0xFA6E,0xFA6F),(0xFADA,0xFAFF),(0xFB07,0xFB12),(0xFB18,0xFB1C),
    (0xFB37,0xFB37),(0xFB3D,0xFB3D),(0xFB3F,0xFB3F),(0xFB42,0xFB42),(0xFB45,0xFB45),(0xFDD0,0xFDEF),
    (0xFE1A,0xFE1F),(0xFE53,0xFE53),(0xFE67,0xFE67),(0xFE6C,0xFE6F),(0xFE75,0xFE75),(0xFEFD,0xFF00),
    (0xFFBF,0xFFC1),(0xFFC8,0xFFC9),(0xFFD0,0xFFD1),(0xFFD8,0xFFD9),(0xFFDD,0xFFDF),(0xFFE7,0xFFE7),
    (0xFFEF,0xFFFB),(0xFFFE,0xFFFF),(0x1000C,0x1000C),(0x10027,0x10027),(0x1003B,0x1003B),
    (0x1003E,0x1003E),(0x1004E,0x1004F),(0x1005E,0x1007F),(0x100FB,0x100FF),(0x10103,0x10106),
    (0x10134,0x10136),(0x1018F,0x1018F),(0x1019D,0x1019F),(0x101A1,0x101CF),(0x101FE,0x1027F),
    (0x1029D,0x1029F),(0x102D1,0x102DF),(0x102FC,0x102FF),(0x10324,0x1032C),(0x1034B,0x1034F),
    (0x1037B,0x1037F),(0x1039E,0x1039E),(0x103C4,0x103C7),(0x103D6,0x103FF),(0x1049E,0x1049F),
    (0x104AA,0x104AF),(0x104D4,0x104D7),(0x104FC,0x104FF),(0x10528,0x1052F),(0x10564,0x1056E),
    (0x1057B,0x1057B),(0x1058B,0x1058B),(0x10593,0x10593),(0x10596,0x10596),(0x105A2,0x105A2),
    (0x105B2,0x105B2),(0x105BA,0x105BA),(0x105BD,0x105BF),(0x105F4,0x105FF),(0x10737,0x1073F),
    (0x10756,0x1075F),(0x10768,0x1077F),(0x10786,0x10786),(0x107B1,0x107B1),(0x107BB,0x107FF),
    (0x10806,0x10807),(0x10809,0x10809),(0x10836,0x10836),(0x10839,0x1083B),(0x1083D,0x1083E),
    (0x10856,0x10856),(0x1089F,0x108A6),(0x108B0,0x108DF),(0x108F3,0x108F3),(0x108F6,0x108FA),
    (0x1091C,0x1091E),(0x1093A,0x1093E),(0x1095A,0x1097F),(0x109B8,0x109BB),(0x109D0,0x109D1),
    (0x10A04,0x10A04),(0x10A07,0x10A0B),(0x10A14,0x10A14),(0x10A18,0x10A18),(0x10A36,0x10A37),
    (0x10A3B,0x10A3E),(0x10A49,0x10A4F),(0x10A59,0x10A5F),(0x10AA0,0x10ABF),(0x10AE7,0x10AEA),
    (0x10AF7,0x10AFF),(0x10B36,0x10B38),(0x10B56,0x10B57),(0x10B73,0x10B77),(0x10B92,0x10B98),
    (0x10B9D,0x10BA8),(0x10BB0,0x10BFF),(0x10C49,0x10C7F),(0x10CB3,0x10CBF),(0x10CF3,0x10CF9),
    (0x10D28,0x10D2F),(0x10D3A,0x10D3F),(0x10D66,0x10D68),(0x10D86,0x10D8D),(0x10D90,0x10E5F),
    (0x10E7F,0x10E7F),(0x10EAA,0x10EAA),(0x10EAE,0x10EAF),(0x10EB2,0x10EC1),(0x10EC8,0x10ECF),
    (0x10ED9,0x10EF9),(0x10F28,0x10F2F),(0x10F5A,0x10F6F),(0x10F8A,0x10FAF),(0x10FCC,0x10FDF),
    (0x10FF7,0x10FFF),(0x1104E,0x11051),(0x11076,0x1107E),(0x110BD,0x110BD),(0x110C3,0x110CF),
    (0x110E9,0x110EF),(0x110FA,0x110FF),(0x11135,0x11135),(0x11148,0x1114F),(0x11177,0x1117F),
    (0x111E0,0x111E0),(0x111F5,0x111FF),(0x11212,0x11212),(0x11242,0x1127F),(0x11287,0x11287),
    (0x11289,0x11289),(0x1128E,0x1128E),(0x1129E,0x1129E),(0x112AA,0x112AF),(0x112EB,0x112EF),
    (0x112FA,0x112FF),(0x11304,0x11304),(0x1130D,0x1130E),(0x11311,0x11312),(0x11329,0x11329),
    (0x11331,0x11331),(0x11334,0x11334),(0x1133A,0x1133A),(0x11345,0x11346),(0x11349,0x1134A),
    (0x1134E,0x1134F),(0x11351,0x11356),(0x11358,0x1135C),(0x11364,0x11365),(0x1136D,0x1136F),
    (0x11375,0x1137F),(0x1138A,0x1138A),(0x1138C,0x1138D),(0x1138F,0x1138F),(0x113B6,0x113B6),
    (0x113C1,0x113C1),(0x113C3,0x113C4),(0x113C6,0x113C6),(0x113CB,0x113CB),(0x113D6,0x113D6),
    (0x113D9,0x113E0),(0x113E3,0x113FF),(0x1145C,0x1145C),(0x11462,0x1147F),(0x114C8,0x114CF),
    (0x114DA,0x1157F),(0x115B6,0x115B7),(0x115DE,0x115FF),(0x11645,0x1164F),(0x1165A,0x1165F),
    (0x1166D,0x1167F),(0x116BA,0x116BF),(0x116CA,0x116CF),(0x116E4,0x116FF),(0x1171B,0x1171C),
    (0x1172C,0x1172F),(0x11747,0x117FF),(0x1183C,0x1189F),(0x118F3,0x118FE),(0x11907,0x11908),
    (0x1190A,0x1190B),(0x11914,0x11914),(0x11917,0x11917),(0x11936,0x11936),(0x11939,0x1193A),
    (0x11947,0x1194F),(0x1195A,0x1199F),(0x119A8,0x119A9),(0x119D8,0x119D9),(0x119E5,0x119FF),
    (0x11A48,0x11A4F),(0x11AA3,0x11AAF),(0x11AF9,0x11AFF),(0x11B0A,0x11B5F),(0x11B68,0x11BBF),
    (0x11BE2,0x11BEF),(0x11BFA,0x11BFF),(0x11C09,0x11C09),(0x11C37,0x11C37),(0x11C46,0x11C4F),
    (0x11C6D,0x11C6F),(0x11C90,0x11C91),(0x11CA8,0x11CA8),(0x11CB7,0x11CFF),(0x11D07,0x11D07),
    (0x11D0A,0x11D0A),(0x11D37,0x11D39),(0x11D3B,0x11D3B),(0x11D3E,0x11D3E),(0x11D48,0x11D4F),
    (0x11D5A,0x11D5F),(0x11D66,0x11D66),(0x11D69,0x11D69),(0x11D8F,0x11D8F),(0x11D92,0x11D92),
    (0x11D99,0x11D9F),(0x11DAA,0x11DAF),(0x11DDC,0x11DDF),(0x11DEA,0x11EDF),(0x11EF9,0x11EFF),
    (0x11F11,0x11F11),(0x11F3B,0x11F3D),(0x11F5B,0x11FAF),(0x11FB1,0x11FBF),(0x11FF2,0x11FFE),
    (0x1239A,0x123FF),(0x1246F,0x1246F),(0x12475,0x1247F),(0x12544,0x12F8F),(0x12FF3,0x12FFF),
    (0x13430,0x1343F),(0x13456,0x1345F),(0x143FB,0x143FF),(0x14647,0x160FF),(0x1613A,0x167FF),
    (0x16A39,0x16A3F),(0x16A5F,0x16A5F),(0x16A6A,0x16A6D),(0x16ABF,0x16ABF),(0x16ACA,0x16ACF),
    (0x16AEE,0x16AEF),(0x16AF6,0x16AFF),(0x16B46,0x16B4F),(0x16B5A,0x16B5A),(0x16B62,0x16B62),
    (0x16B78,0x16B7C),(0x16B90,0x16D3F),(0x16D7A,0x16E3F),(0x16E9B,0x16E9F),(0x16EB9,0x16EBA),
    (0x16ED4,0x16EFF),(0x16F4B,0x16F4E),(0x16F88,0x16F8E),(0x16FA0,0x16FDF),(0x16FE5,0x16FEF),
    (0x16FF7,0x16FFF),(0x18CD6,0x18CFE),(0x18D1F,0x18D7F),(0x18DF3,0x1AFEF),(0x1AFF4,0x1AFF4),
    (0x1AFFC,0x1AFFC),(0x1AFFF,0x1AFFF),(0x1B123,0x1B131),(0x1B133,0x1B14F),(0x1B153,0x1B154),
    (0x1B156,0x1B163),(0x1B168,0x1B16F),(0x1B2FC,0x1BBFF),(0x1BC6B,0x1BC6F),(0x1BC7D,0x1BC7F),
    (0x1BC89,0x1BC8F),(0x1BC9A,0x1BC9B),(0x1BCA0,0x1CBFF),(0x1CCFD,0x1CCFF),(0x1CEB4,0x1CEB9),
    (0x1CED1,0x1CEDF),(0x1CEF1,0x1CEFF),(0x1CF2E,0x1CF2F),(0x1CF47,0x1CF4F),(0x1CFC4,0x1CFFF),
    (0x1D0F6,0x1D0FF),(0x1D127,0x1D128),(0x1D173,0x1D17A),(0x1D1EB,0x1D1FF),(0x1D246,0x1D2BF),
    (0x1D2D4,0x1D2DF),(0x1D2F4,0x1D2FF),(0x1D357,0x1D35F),(0x1D379,0x1D3FF),(0x1D455,0x1D455),
    (0x1D49D,0x1D49D),(0x1D4A0,0x1D4A1),(0x1D4A3,0x1D4A4),(0x1D4A7,0x1D4A8),(0x1D4AD,0x1D4AD),
    (0x1D4BA,0x1D4BA),(0x1D4BC,0x1D4BC),(0x1D4C4,0x1D4C4),(0x1D506,0x1D506),(0x1D50B,0x1D50C),
    (0x1D515,0x1D515),(0x1D51D,0x1D51D),(0x1D53A,0x1D53A),(0x1D53F,0x1D53F),(0x1D545,0x1D545),
    (0x1D547,0x1D549),(0x1D551,0x1D551),(0x1D6A6,0x1D6A7),(0x1D7CC,0x1D7CD),(0x1DA8C,0x1DA9A),
    (0x1DAA0,0x1DAA0),(0x1DAB0,0x1DEFF),(0x1DF1F,0x1DF24),(0x1DF2B,0x1DFFF),(0x1E007,0x1E007),
    (0x1E019,0x1E01A),(0x1E022,0x1E022),(0x1E025,0x1E025),(0x1E02B,0x1E02F),(0x1E06E,0x1E08E),
    (0x1E090,0x1E0FF),(0x1E12D,0x1E12F),(0x1E13E,0x1E13F),(0x1E14A,0x1E14D),(0x1E150,0x1E28F),
    (0x1E2AF,0x1E2BF),(0x1E2FA,0x1E2FE),(0x1E300,0x1E4CF),(0x1E4FA,0x1E5CF),(0x1E5FB,0x1E5FE),
    (0x1E600,0x1E6BF),(0x1E6DF,0x1E6DF),(0x1E6F6,0x1E6FD),(0x1E700,0x1E7DF),(0x1E7E7,0x1E7E7),
    (0x1E7EC,0x1E7EC),(0x1E7EF,0x1E7EF),(0x1E7FF,0x1E7FF),(0x1E8C5,0x1E8C6),(0x1E8D7,0x1E8FF),
    (0x1E94C,0x1E94F),(0x1E95A,0x1E95D),(0x1E960,0x1EC70),(0x1ECB5,0x1ED00),(0x1ED3E,0x1EDFF),
    (0x1EE04,0x1EE04),(0x1EE20,0x1EE20),(0x1EE23,0x1EE23),(0x1EE25,0x1EE26),(0x1EE28,0x1EE28),
    (0x1EE33,0x1EE33),(0x1EE38,0x1EE38),(0x1EE3A,0x1EE3A),(0x1EE3C,0x1EE41),(0x1EE43,0x1EE46),
    (0x1EE48,0x1EE48),(0x1EE4A,0x1EE4A),(0x1EE4C,0x1EE4C),(0x1EE50,0x1EE50),(0x1EE53,0x1EE53),
    (0x1EE55,0x1EE56),(0x1EE58,0x1EE58),(0x1EE5A,0x1EE5A),(0x1EE5C,0x1EE5C),(0x1EE5E,0x1EE5E),
    (0x1EE60,0x1EE60),(0x1EE63,0x1EE63),(0x1EE65,0x1EE66),(0x1EE6B,0x1EE6B),(0x1EE73,0x1EE73),
    (0x1EE78,0x1EE78),(0x1EE7D,0x1EE7D),(0x1EE7F,0x1EE7F),(0x1EE8A,0x1EE8A),(0x1EE9C,0x1EEA0),
    (0x1EEA4,0x1EEA4),(0x1EEAA,0x1EEAA),(0x1EEBC,0x1EEEF),(0x1EEF2,0x1EFFF),(0x1F02C,0x1F02F),
    (0x1F094,0x1F09F),(0x1F0AF,0x1F0B0),(0x1F0C0,0x1F0C0),(0x1F0D0,0x1F0D0),(0x1F0F6,0x1F0FF),
    (0x1F1AE,0x1F1E5),(0x1F203,0x1F20F),(0x1F23C,0x1F23F),(0x1F249,0x1F24F),(0x1F252,0x1F25F),
    (0x1F266,0x1F2FF),(0x1F6D9,0x1F6DB),(0x1F6ED,0x1F6EF),(0x1F6FD,0x1F6FF),(0x1F7DA,0x1F7DF),
    (0x1F7EC,0x1F7EF),(0x1F7F1,0x1F7FF),(0x1F80C,0x1F80F),(0x1F848,0x1F84F),(0x1F85A,0x1F85F),
    (0x1F888,0x1F88F),(0x1F8AE,0x1F8AF),(0x1F8BC,0x1F8BF),(0x1F8C2,0x1F8CF),(0x1F8D9,0x1F8FF),
    (0x1FA58,0x1FA5F),(0x1FA6E,0x1FA6F),(0x1FA7D,0x1FA7F),(0x1FA8B,0x1FA8D),(0x1FAC7,0x1FAC7),
    (0x1FAC9,0x1FACC),(0x1FADD,0x1FADE),(0x1FAEB,0x1FAEE),(0x1FAF9,0x1FAFF),(0x1FB93,0x1FB93),
    (0x1FBFB,0x1FFFF),(0x2A6E0,0x2A6FF),(0x2B81E,0x2B81F),(0x2CEAE,0x2CEAF),(0x2EBE1,0x2EBEF),
    (0x2EE5E,0x2F7FF),(0x2FA1E,0x2FFFF),(0x3134B,0x3134F),(0x3347A,0xE00FF),(0xE01F0,0x10FFFF)]

def Repertoire.unicode : Repertoire := ⟨extendingRanges,unprintedRanges⟩

end LispCalls.Text
