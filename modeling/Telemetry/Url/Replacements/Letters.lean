/-!
Letters and signs of the scripts before the symbols that are replaced in domain names.

Each entry holds the first of some neighbouring code points, and what stands for each of them.
-/

namespace Telemetry.Url

def replacedLetters : List (Nat × List (List Nat)) :=
  [(0xA0, [[0x20]]), (0xA8, [[0x20, 0x308]]), (0xAA, [[0x61]]), (0xAF, [[0x20, 0x304]]), (0xB2,
    [[0x32], [0x33], [0x20, 0x301], [0x3BC]]), (0xB8, [[0x20, 0x327], [0x31], [0x6F]]), (0xBC,
    [[0x31, 0x2044, 0x34], [0x31, 0x2044, 0x32], [0x33, 0x2044, 0x34]]), (0x130, [[0x69, 0x307]]),
    (0x132, [[0x69, 0x6A], [0x69, 0x6A], [0x135]]), (0x136, [[0x137]]), (0x13F, [[0x6C, 0xB7],
    [0x6C, 0xB7]]), (0x149, [[0x2BC, 0x6E]]), (0x178, [[0xFF]]), (0x17F, [[0x73]]), (0x181,
    [[0x253], [0x183]]), (0x184, [[0x185]]), (0x186, [[0x254], [0x188]]), (0x189, [[0x256], [0x257],
    [0x18C]]), (0x18E, [[0x1DD], [0x259], [0x25B], [0x192]]), (0x193, [[0x260], [0x263]]), (0x196,
    [[0x269], [0x268], [0x199]]), (0x19C, [[0x26F], [0x272]]), (0x19F, [[0x275]]), (0x1A6, [[0x280],
    [0x1A8]]), (0x1A9, [[0x283]]), (0x1AC, [[0x1AD]]), (0x1AE, [[0x288], [0x1B0]]), (0x1B1,
    [[0x28A], [0x28B], [0x1B4]]), (0x1B5, [[0x1B6]]), (0x1B7, [[0x292], [0x1B9]]), (0x1BC,
    [[0x1BD]]), (0x1C4, [[0x64, 0x17E], [0x64, 0x17E], [0x64, 0x17E], [0x6C, 0x6A], [0x6C, 0x6A],
    [0x6C, 0x6A], [0x6E, 0x6A], [0x6E, 0x6A], [0x6E, 0x6A]]), (0x1F1, [[0x64, 0x7A], [0x64, 0x7A],
    [0x64, 0x7A], [0x1F5]]), (0x1F6, [[0x195], [0x1BF]]), (0x220, [[0x19E]]), (0x23A, [[0x2C65],
    [0x23C]]), (0x23D, [[0x19A], [0x2C66]]), (0x241, [[0x242]]), (0x243, [[0x180], [0x289],
    [0x28C]]), (0x2B0, [[0x68], [0x266], [0x6A], [0x72], [0x279], [0x27B], [0x281], [0x77],
    [0x79]]), (0x2D8, [[0x20, 0x306], [0x20, 0x307], [0x20, 0x30A], [0x20, 0x328], [0x20, 0x303],
    [0x20, 0x30B]]), (0x2E0, [[0x263], [0x6C], [0x73], [0x78], [0x295]]), (0x340, [[0x300],
    [0x301]]), (0x343, [[0x313], [0x308, 0x301], [0x3B9]]), (0x370, [[0x371]]), (0x372, [[0x373]]),
    (0x374, [[0x2B9]]), (0x376, [[0x377]]), (0x37A, [[0x20, 0x3B9]]), (0x37E, [[0x3B], [0x3F3]]),
    (0x384, [[0x20, 0x301], [0x20, 0x308, 0x301], [0x3AC], [0xB7]]), (0x38C, [[0x3CC]]), (0x38E,
    [[0x3CD], [0x3CE]]), (0x3CF, [[0x3D7], [0x3B2], [0x3B8], [0x3C5], [0x3CD], [0x3CB], [0x3C6],
    [0x3C0]]), (0x3F0, [[0x3BA], [0x3C1], [0x3C3]]), (0x3F4, [[0x3B8], [0x3B5]]), (0x3F7,
    [[0x3F8]]), (0x3F9, [[0x3C3], [0x3FB]]), (0x4C0, [[0x4CF]]), (0x587, [[0x565, 0x582]]), (0x675,
    [[0x627, 0x674], [0x648, 0x674], [0x6C7, 0x674], [0x64A, 0x674]]), (0x958, [[0x915, 0x93C],
    [0x916, 0x93C], [0x917, 0x93C], [0x91C, 0x93C], [0x921, 0x93C], [0x922, 0x93C], [0x92B, 0x93C],
    [0x92F, 0x93C]]), (0x9DC, [[0x9A1, 0x9BC], [0x9A2, 0x9BC]]), (0x9DF, [[0x9AF, 0x9BC]]), (0xA33,
    [[0xA32, 0xA3C]]), (0xA36, [[0xA38, 0xA3C]]), (0xA59, [[0xA16, 0xA3C], [0xA17, 0xA3C], [0xA1C,
    0xA3C]]), (0xA5E, [[0xA2B, 0xA3C]]), (0xB5C, [[0xB21, 0xB3C], [0xB22, 0xB3C]]), (0xE33, [[0xE4D,
    0xE32]]), (0xEB3, [[0xECD, 0xEB2]]), (0xEDC, [[0xEAB, 0xE99], [0xEAB, 0xEA1]]), (0xF0C,
    [[0xF0B]]), (0xF43, [[0xF42, 0xFB7]]), (0xF4D, [[0xF4C, 0xFB7]]), (0xF52, [[0xF51, 0xFB7]]),
    (0xF57, [[0xF56, 0xFB7]]), (0xF5C, [[0xF5B, 0xFB7]]), (0xF69, [[0xF40, 0xFB5]]), (0xF73,
    [[0xF71, 0xF72]]), (0xF75, [[0xF71, 0xF74], [0xFB2, 0xF80], [0xFB2, 0xF71, 0xF80], [0xFB3,
    0xF80], [0xFB3, 0xF71, 0xF80]]), (0xF81, [[0xF71, 0xF80]]), (0xF93, [[0xF92, 0xFB7]]), (0xF9D,
    [[0xF9C, 0xFB7]]), (0xFA2, [[0xFA1, 0xFB7]]), (0xFA7, [[0xFA6, 0xFB7]]), (0xFAC, [[0xFAB,
    0xFB7]]), (0xFB9, [[0xF90, 0xFB5]]), (0x10C7, [[0x2D27]]), (0x10CD, [[0x2D2D]]), (0x10FC,
    [[0x10DC]]), (0x1C80, [[0x432], [0x434], [0x43E], [0x441], [0x442], [0x442], [0x44A], [0x463],
    [0xA64B], [0x1C8A]]), (0x1D2C, [[0x61], [0xE6], [0x62]]), (0x1D30, [[0x64]]), (0x1D32,
    [[0x1DD]]), (0x1D3C, [[0x6F], [0x223], [0x70], [0x72], [0x74], [0x75], [0x77], [0x61], [0x250],
    [0x251], [0x1D02], [0x62], [0x64], [0x65], [0x259], [0x25B], [0x25C], [0x67]]), (0x1D4F,
    [[0x6B], [0x6D], [0x14B], [0x6F], [0x254], [0x1D16], [0x1D17], [0x70], [0x74], [0x75], [0x1D1D],
    [0x26F], [0x76], [0x1D25]]), (0x1D60, [[0x3C6], [0x3C7], [0x69], [0x72], [0x75], [0x76],
    [0x3B2], [0x3B3], [0x3C1], [0x3C6], [0x3C7]]), (0x1D78, [[0x43D]]), (0x1D9B, [[0x252], [0x63],
    [0x255], [0xF0], [0x25C], [0x66], [0x25F], [0x261], [0x265]]), (0x1DA7, [[0x1D7B], [0x29D],
    [0x26D], [0x1D85], [0x29F], [0x271], [0x270]]), (0x1DB2, [[0x278], [0x282], [0x283], [0x1AB],
    [0x289], [0x28A], [0x1D1C], [0x28B], [0x28C], [0x7A]]), (0x1DBF, [[0x3B8]]), (0x1E9A, [[0x61,
    0x2BE], [0x1E61]]), (0x1E9E, [[0xDF]]), (0x1F71, [[0x3AC]]), (0x1F73, [[0x3AD]]), (0x1F75,
    [[0x3AE]]), (0x1F77, [[0x3AF]]), (0x1F79, [[0x3CC]]), (0x1F7B, [[0x3CD]]), (0x1F7D, [[0x3CE]]),
    (0x1F80, [[0x1F00, 0x3B9], [0x1F01, 0x3B9], [0x1F02, 0x3B9], [0x1F03, 0x3B9], [0x1F04, 0x3B9],
    [0x1F05, 0x3B9], [0x1F06, 0x3B9], [0x1F07, 0x3B9], [0x1F00, 0x3B9], [0x1F01, 0x3B9], [0x1F02,
    0x3B9], [0x1F03, 0x3B9], [0x1F04, 0x3B9], [0x1F05, 0x3B9], [0x1F06, 0x3B9], [0x1F07, 0x3B9],
    [0x1F20, 0x3B9], [0x1F21, 0x3B9], [0x1F22, 0x3B9], [0x1F23, 0x3B9], [0x1F24, 0x3B9], [0x1F25,
    0x3B9], [0x1F26, 0x3B9], [0x1F27, 0x3B9], [0x1F20, 0x3B9], [0x1F21, 0x3B9], [0x1F22, 0x3B9],
    [0x1F23, 0x3B9], [0x1F24, 0x3B9], [0x1F25, 0x3B9], [0x1F26, 0x3B9], [0x1F27, 0x3B9], [0x1F60,
    0x3B9], [0x1F61, 0x3B9], [0x1F62, 0x3B9], [0x1F63, 0x3B9], [0x1F64, 0x3B9], [0x1F65, 0x3B9],
    [0x1F66, 0x3B9], [0x1F67, 0x3B9], [0x1F60, 0x3B9], [0x1F61, 0x3B9], [0x1F62, 0x3B9], [0x1F63,
    0x3B9], [0x1F64, 0x3B9], [0x1F65, 0x3B9], [0x1F66, 0x3B9], [0x1F67, 0x3B9]]), (0x1FB2, [[0x1F70,
    0x3B9], [0x3B1, 0x3B9], [0x3AC, 0x3B9]]), (0x1FB7, [[0x1FB6, 0x3B9], [0x1FB0], [0x1FB1],
    [0x1F70], [0x3AC], [0x3B1, 0x3B9], [0x20, 0x313], [0x3B9], [0x20, 0x313], [0x20, 0x342], [0x20,
    0x308, 0x342], [0x1F74, 0x3B9], [0x3B7, 0x3B9], [0x3AE, 0x3B9]]), (0x1FC7, [[0x1FC6, 0x3B9],
    [0x1F72], [0x3AD], [0x1F74], [0x3AE], [0x3B7, 0x3B9], [0x20, 0x313, 0x300], [0x20, 0x313,
    0x301], [0x20, 0x313, 0x342]]), (0x1FD3, [[0x390]]), (0x1FD8, [[0x1FD0], [0x1FD1], [0x1F76],
    [0x3AF]]), (0x1FDD, [[0x20, 0x314, 0x300], [0x20, 0x314, 0x301], [0x20, 0x314, 0x342]]),
    (0x1FE3, [[0x3B0]]), (0x1FE8, [[0x1FE0], [0x1FE1], [0x1F7A], [0x3CD], [0x1FE5], [0x20, 0x308,
    0x300], [0x20, 0x308, 0x301], [0x60]]), (0x1FF2, [[0x1F7C, 0x3B9], [0x3C9, 0x3B9], [0x3CE,
    0x3B9]]), (0x1FF7, [[0x1FF6, 0x3B9], [0x1F78], [0x3CC], [0x1F7C], [0x3CE], [0x3C9, 0x3B9],
    [0x20, 0x301], [0x20, 0x314]])]

end Telemetry.Url
