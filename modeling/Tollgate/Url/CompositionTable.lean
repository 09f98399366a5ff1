import Tollgate.Text.CharacterSet

/-!
# Letters and their marks

The tables of Unicode by which a letter and the marks on it are written as one character, for the
characters that a folded name may hold. The syllables of Hangul are not among them: they are computed.
-/

namespace Tollgate

namespace CompositionTable

/-- Marks, by the class that says where they stand among the marks on a letter. -/
def classes : Array (Nat × CharacterSet) :=
  #[
    (1, #[0x334, 0x339, 0x1CD4, 0x1CD5, 0x1CE2, 0x1CE9, 0x20D2, 0x20D4, 0x20D8, 0x20DB, 0x20E5,
      0x20E7, 0x20EA, 0x20EC, 0x10A39, 0x10A3A, 0x16AF0, 0x16AF5, 0x1BC9E, 0x1BC9F, 0x1D167,
      0x1D16A]),
    (6, #[0x16FF0, 0x17000]),
    (7, #[0x93C, 0x93D, 0x9BC, 0x9BD, 0xA3C, 0xA3E, 0xABC, 0xABD, 0xB3C, 0xB3D, 0xC3C, 0xC3D,
      0xCBC, 0xCBD, 0x1037, 0x1038, 0x1B34, 0x1B35, 0x1BE6, 0x1BE7, 0x1C37, 0x1C3B, 0xA9B3,
      0xA9B4, 0x110BA, 0x110BB, 0x11173, 0x11174, 0x111CA, 0x111CB, 0x11236, 0x11237, 0x112E9,
      0x112EA, 0x1133B, 0x1133D, 0x11446, 0x11447, 0x114C3, 0x114C4, 0x115C0, 0x115C1, 0x116B7,
      0x116B8, 0x1183A, 0x1183B, 0x11943, 0x11944, 0x11D42, 0x11D43, 0x1E94A, 0x1E94B]),
    (8, #[0x3099, 0x309D]),
    (9, #[0x94D, 0x94E, 0x9CD, 0x9CE, 0xA4D, 0xA51, 0xACD, 0xAD0, 0xB4D, 0xB55, 0xBCD, 0xBD0,
      0xC4D, 0xC55, 0xCCD, 0xCD5, 0xD3B, 0xD3D, 0xD4D, 0xD4E, 0xDCA, 0xDCF, 0xE3A, 0xE3F, 0xEBA,
      0xEBB, 0xF84, 0xF85, 0x1039, 0x103B, 0x1714, 0x171F, 0x1734, 0x1735, 0x17D2, 0x17D3, 0x1A60,
      0x1A61, 0x1B44, 0x1B45, 0x1BAA, 0x1BAC, 0x1BF2, 0x1BFC, 0x2D7F, 0x2D80, 0xA806, 0xA807,
      0xA82C, 0xA830, 0xA8C4, 0xA8C5, 0xA953, 0xA95F, 0xA9C0, 0xA9C1, 0xAAF6, 0xAB01, 0xABED,
      0xABF0, 0x10A3F, 0x10A40, 0x11046, 0x11047, 0x11070, 0x11071, 0x1107F, 0x11080, 0x110B9,
      0x110BA, 0x11133, 0x11136, 0x111C0, 0x111C1, 0x11235, 0x11236, 0x112EA, 0x112F0, 0x1134D,
      0x11350, 0x11442, 0x11443, 0x114C2, 0x114C3, 0x115BF, 0x115C0, 0x1163F, 0x11640, 0x116B6,
      0x116B7, 0x1172B, 0x11730, 0x11839, 0x1183A, 0x1193D, 0x1193F, 0x119E0, 0x119E1, 0x11A34,
      0x11A35, 0x11A47, 0x11A50, 0x11A99, 0x11A9A, 0x11C3F, 0x11C40, 0x11D44, 0x11D46, 0x11D97,
      0x11D98, 0x11F41, 0x11F43]),
    (10, #[0x5B0, 0x5B1]),
    (11, #[0x5B1, 0x5B2]),
    (12, #[0x5B2, 0x5B3]),
    (13, #[0x5B3, 0x5B4]),
    (14, #[0x5B4, 0x5B5]),
    (15, #[0x5B5, 0x5B6]),
    (16, #[0x5B6, 0x5B7]),
    (17, #[0x5B7, 0x5B8]),
    (18, #[0x5B8, 0x5B9, 0x5C7, 0x5D0]),
    (19, #[0x5B9, 0x5BB]),
    (20, #[0x5BB, 0x5BC]),
    (21, #[0x5BC, 0x5BD]),
    (22, #[0x5BD, 0x5BE]),
    (23, #[0x5BF, 0x5C0]),
    (24, #[0x5C1, 0x5C2]),
    (25, #[0x5C2, 0x5C3]),
    (26, #[0xFB1E, 0xFBB2]),
    (27, #[0x64B, 0x64C, 0x8F0, 0x8F1]),
    (28, #[0x64C, 0x64D, 0x8F1, 0x8F2]),
    (29, #[0x64D, 0x64E, 0x8F2, 0x8F3]),
    (30, #[0x618, 0x619, 0x64E, 0x64F]),
    (31, #[0x619, 0x61A, 0x64F, 0x650]),
    (32, #[0x61A, 0x61B, 0x650, 0x651]),
    (33, #[0x651, 0x652]),
    (34, #[0x652, 0x653]),
    (35, #[0x670, 0x671]),
    (36, #[0x711, 0x712]),
    (84, #[0xC55, 0xC56]),
    (91, #[0xC56, 0xC58]),
    (103, #[0xE38, 0xE3A]),
    (107, #[0xE48, 0xE4C]),
    (118, #[0xEB8, 0xEBA]),
    (122, #[0xEC8, 0xECC, 0xECE, 0xED0]),
    (129, #[0xF71, 0xF72]),
    (130, #[0xF72, 0xF74, 0xF7A, 0xF7E, 0xF80, 0xF82]),
    (132, #[0xF74, 0xF7A]),
    (202, #[0x321, 0x323, 0x327, 0x329, 0x1DD0, 0x1DD1]),
    (214, #[0x1DCE, 0x1DCF]),
    (216, #[0x31B, 0x31C, 0xF39, 0xF3A, 0x1D165, 0x1D167, 0x1D16E, 0x1D17B]),
    (218, #[0x1DFA, 0x1DFB, 0x302A, 0x302B]),
    (220, #[0x316, 0x31A, 0x31C, 0x321, 0x323, 0x327, 0x329, 0x334, 0x339, 0x33D, 0x347, 0x34A,
      0x34D, 0x350, 0x353, 0x357, 0x359, 0x35B, 0x591, 0x592, 0x596, 0x597, 0x59B, 0x59C, 0x5A2,
      0x5A8, 0x5AA, 0x5AB, 0x5C5, 0x5C6, 0x655, 0x657, 0x65C, 0x65D, 0x65F, 0x660, 0x6E3, 0x6E4,
      0x6EA, 0x6EB, 0x6ED, 0x6EE, 0x731, 0x732, 0x734, 0x735, 0x737, 0x73A, 0x73B, 0x73D, 0x73E,
      0x73F, 0x742, 0x743, 0x744, 0x745, 0x746, 0x747, 0x748, 0x749, 0x7F2, 0x7F3, 0x7FD, 0x7FE,
      0x859, 0x85E, 0x899, 0x89C, 0x8CF, 0x8D4, 0x8E3, 0x8E4, 0x8E6, 0x8E7, 0x8E9, 0x8EA, 0x8ED,
      0x8F0, 0x8F6, 0x8F7, 0x8F9, 0x8FB, 0x952, 0x953, 0xF18, 0xF1A, 0xF35, 0xF36, 0xF37, 0xF38,
      0xFC6, 0xFC7, 0x108D, 0x108E, 0x193B, 0x1940, 0x1A18, 0x1A19, 0x1A7F, 0x1A80, 0x1AB5,
      0x1ABB, 0x1ABD, 0x1ABE, 0x1ABF, 0x1AC1, 0x1AC3, 0x1AC5, 0x1ACA, 0x1ACB, 0x1B6C, 0x1B6D,
      0x1CD5, 0x1CDA, 0x1CDC, 0x1CE0, 0x1CED, 0x1CEE, 0x1DC2, 0x1DC3, 0x1DCA, 0x1DCB, 0x1DCF,
      0x1DD0, 0x1DF9, 0x1DFA, 0x1DFD, 0x1DFE, 0x1DFF, 0x1E01, 0x20E8, 0x20E9, 0x20EC, 0x20F0,
      0xA92B, 0xA92E, 0xAAB4, 0xAAB5, 0xFE27, 0xFE2E, 0x101FD, 0x10280, 0x102E0, 0x102E1, 0x10A0D,
      0x10A0E, 0x10A3A, 0x10A3F, 0x10AE6, 0x10AEB, 0x10EFD, 0x10F00, 0x10F46, 0x10F48, 0x10F4B,
      0x10F4C, 0x10F4D, 0x10F51, 0x10F83, 0x10F84, 0x10F85, 0x10F86, 0x1D17B, 0x1D183, 0x1D18A,
      0x1D18C, 0x1E4EE, 0x1E4EF, 0x1E8D0, 0x1E922]),
    (222, #[0x59A, 0x59B, 0x5AD, 0x5AE, 0x1939, 0x193A, 0x302D, 0x302E]),
    (224, #[0x302E, 0x3030]),
    (226, #[0x1D16D, 0x1D16E]),
    (228, #[0x5AE, 0x5AF, 0x18A9, 0x18AA, 0x1DF7, 0x1DF9, 0x302B, 0x302C]),
    (230, #[0x300, 0x315, 0x33D, 0x347, 0x34A, 0x34D, 0x350, 0x353, 0x357, 0x358, 0x35B, 0x35C,
      0x363, 0x371, 0x483, 0x488, 0x592, 0x596, 0x597, 0x59A, 0x59C, 0x5A2, 0x5A8, 0x5AA, 0x5AB,
      0x5AD, 0x5AF, 0x5B0, 0x5C4, 0x5C5, 0x610, 0x618, 0x653, 0x655, 0x657, 0x65C, 0x65D, 0x65F,
      0x6D6, 0x6DE, 0x6DF, 0x6E3, 0x6E4, 0x6E5, 0x6E7, 0x6E9, 0x6EB, 0x6ED, 0x730, 0x731, 0x732,
      0x734, 0x735, 0x737, 0x73A, 0x73B, 0x73D, 0x73E, 0x73F, 0x742, 0x743, 0x744, 0x745, 0x746,
      0x747, 0x748, 0x749, 0x74D, 0x7EB, 0x7F2, 0x7F3, 0x7F4, 0x816, 0x81A, 0x81B, 0x824, 0x825,
      0x828, 0x829, 0x830, 0x898, 0x899, 0x89C, 0x8A0, 0x8CA, 0x8CF, 0x8D4, 0x8E3, 0x8E4, 0x8E6,
      0x8E7, 0x8E9, 0x8EA, 0x8ED, 0x8F3, 0x8F6, 0x8F7, 0x8F9, 0x8FB, 0x900, 0x951, 0x952, 0x953,
      0x955, 0x9FE, 0xA01, 0xF82, 0xF84, 0xF86, 0xF88, 0x135D, 0x1360, 0x17DD, 0x17E0, 0x193A,
      0x193B, 0x1A17, 0x1A18, 0x1A75, 0x1A7F, 0x1AB0, 0x1AB5, 0x1ABB, 0x1ABD, 0x1AC1, 0x1AC3,
      0x1AC5, 0x1ACA, 0x1ACB, 0x1B00, 0x1B6B, 0x1B6C, 0x1B6D, 0x1B74, 0x1CD0, 0x1CD3, 0x1CDA,
      0x1CDC, 0x1CE0, 0x1CE1, 0x1CF4, 0x1CF5, 0x1CF8, 0x1CFA, 0x1DC0, 0x1DC2, 0x1DC3, 0x1DCA,
      0x1DCB, 0x1DCD, 0x1DD1, 0x1DF6, 0x1DFB, 0x1DFC, 0x1DFE, 0x1DFF, 0x20D0, 0x20D2, 0x20D4,
      0x20D8, 0x20DB, 0x20DD, 0x20E1, 0x20E2, 0x20E7, 0x20E8, 0x20E9, 0x20EA, 0x20F0, 0x2104,
      0x2CEF, 0x2CF3, 0x2DE0, 0x2E00, 0xA66F, 0xA670, 0xA674, 0xA67E, 0xA69E, 0xA6A0, 0xA6F0,
      0xA6F2, 0xA8E0, 0xA8F2, 0xAAB0, 0xAAB1, 0xAAB2, 0xAAB4, 0xAAB7, 0xAAB9, 0xAABE, 0xAAC0,
      0xAAC1, 0xAAC2, 0xFE20, 0xFE27, 0xFE2E, 0xFE45, 0x10376, 0x10380, 0x10A0F, 0x10A10, 0x10A38,
      0x10A39, 0x10AE5, 0x10AE6, 0x10D24, 0x10D30, 0x10EAB, 0x10EAD, 0x10F48, 0x10F4B, 0x10F4C,
      0x10F4D, 0x10F82, 0x10F83, 0x10F84, 0x10F85, 0x11100, 0x11103, 0x11366, 0x11400, 0x1145E,
      0x1145F, 0x16B30, 0x16B37, 0x1D185, 0x1D18A, 0x1D1AA, 0x1D1AE, 0x1D242, 0x1D245, 0x1E000,
      0x1E100, 0x1E130, 0x1E137, 0x1E2AE, 0x1E2C0, 0x1E2EC, 0x1E2F0, 0x1E4EF, 0x1E4F0, 0x1E944,
      0x1E94A]),
    (232, #[0x315, 0x316, 0x31A, 0x31B, 0x358, 0x359, 0x1DF6, 0x1DF7, 0x302C, 0x302D, 0x1E4EC,
      0x1E4EE]),
    (233, #[0x35C, 0x35D, 0x35F, 0x360, 0x362, 0x363, 0x1DFC, 0x1DFD]),
    (234, #[0x35D, 0x35F, 0x360, 0x362, 0x1DCD, 0x1DCE])]

/-- What letters are written as together with a mark: the mark, and for each letter what becomes of
it. -/
def composites : Array (Nat × List (Nat × Nat)) :=
  #[
    (0x300, [(0x61, 0xE0), (0x65, 0xE8), (0x69, 0xEC), (0x6E, 0x1F9), (0x6F, 0xF2), (0x75, 0xF9),
      (0x77, 0x1E81), (0x79, 0x1EF3), (0xE2, 0x1EA7), (0xEA, 0x1EC1), (0xF4, 0x1ED3),
      (0xFC, 0x1DC), (0x103, 0x1EB1), (0x113, 0x1E15), (0x14D, 0x1E51), (0x1A1, 0x1EDD),
      (0x1B0, 0x1EEB), (0x3B1, 0x1F70), (0x3B5, 0x1F72), (0x3B7, 0x1F74), (0x3B9, 0x1F76),
      (0x3BF, 0x1F78), (0x3C5, 0x1F7A), (0x3C9, 0x1F7C), (0x3CA, 0x1FD2), (0x3CB, 0x1FE2),
      (0x435, 0x450), (0x438, 0x45D), (0x1F00, 0x1F02), (0x1F01, 0x1F03), (0x1F10, 0x1F12),
      (0x1F11, 0x1F13), (0x1F20, 0x1F22), (0x1F21, 0x1F23), (0x1F30, 0x1F32), (0x1F31, 0x1F33),
      (0x1F40, 0x1F42), (0x1F41, 0x1F43), (0x1F50, 0x1F52), (0x1F51, 0x1F53), (0x1F60, 0x1F62),
      (0x1F61, 0x1F63)]),
    (0x301, [(0x61, 0xE1), (0x63, 0x107), (0x65, 0xE9), (0x67, 0x1F5), (0x69, 0xED),
      (0x6B, 0x1E31), (0x6C, 0x13A), (0x6D, 0x1E3F), (0x6E, 0x144), (0x6F, 0xF3), (0x70, 0x1E55),
      (0x72, 0x155), (0x73, 0x15B), (0x75, 0xFA), (0x77, 0x1E83), (0x79, 0xFD), (0x7A, 0x17A),
      (0xE2, 0x1EA5), (0xE5, 0x1FB), (0xE6, 0x1FD), (0xE7, 0x1E09), (0xEA, 0x1EBF),
      (0xEF, 0x1E2F), (0xF4, 0x1ED1), (0xF5, 0x1E4D), (0xF8, 0x1FF), (0xFC, 0x1D8),
      (0x103, 0x1EAF), (0x113, 0x1E17), (0x14D, 0x1E53), (0x169, 0x1E79), (0x1A1, 0x1EDB),
      (0x1B0, 0x1EE9), (0x3B1, 0x3AC), (0x3B5, 0x3AD), (0x3B7, 0x3AE), (0x3B9, 0x3AF),
      (0x3BF, 0x3CC), (0x3C5, 0x3CD), (0x3C9, 0x3CE), (0x3CA, 0x390), (0x3CB, 0x3B0),
      (0x433, 0x453), (0x43A, 0x45C), (0x1F00, 0x1F04), (0x1F01, 0x1F05), (0x1F10, 0x1F14),
      (0x1F11, 0x1F15), (0x1F20, 0x1F24), (0x1F21, 0x1F25), (0x1F30, 0x1F34), (0x1F31, 0x1F35),
      (0x1F40, 0x1F44), (0x1F41, 0x1F45), (0x1F50, 0x1F54), (0x1F51, 0x1F55), (0x1F60, 0x1F64),
      (0x1F61, 0x1F65)]),
    (0x302, [(0x61, 0xE2), (0x63, 0x109), (0x65, 0xEA), (0x67, 0x11D), (0x68, 0x125),
      (0x69, 0xEE), (0x6A, 0x135), (0x6F, 0xF4), (0x73, 0x15D), (0x75, 0xFB), (0x77, 0x175),
      (0x79, 0x177), (0x7A, 0x1E91), (0x1EA1, 0x1EAD), (0x1EB9, 0x1EC7), (0x1ECD, 0x1ED9)]),
    (0x303, [(0x61, 0xE3), (0x65, 0x1EBD), (0x69, 0x129), (0x6E, 0xF1), (0x6F, 0xF5),
      (0x75, 0x169), (0x76, 0x1E7D), (0x79, 0x1EF9), (0xE2, 0x1EAB), (0xEA, 0x1EC5),
      (0xF4, 0x1ED7), (0x103, 0x1EB5), (0x1A1, 0x1EE1), (0x1B0, 0x1EEF)]),
    (0x304, [(0x61, 0x101), (0x65, 0x113), (0x67, 0x1E21), (0x69, 0x12B), (0x6F, 0x14D),
      (0x75, 0x16B), (0x79, 0x233), (0xE4, 0x1DF), (0xE6, 0x1E3), (0xF5, 0x22D), (0xF6, 0x22B),
      (0xFC, 0x1D6), (0x1EB, 0x1ED), (0x227, 0x1E1), (0x22F, 0x231), (0x3B1, 0x1FB1),
      (0x3B9, 0x1FD1), (0x3C5, 0x1FE1), (0x438, 0x4E3), (0x443, 0x4EF), (0x1E37, 0x1E39),
      (0x1E5B, 0x1E5D)]),
    (0x306, [(0x61, 0x103), (0x65, 0x115), (0x67, 0x11F), (0x69, 0x12D), (0x6F, 0x14F),
      (0x75, 0x16D), (0x229, 0x1E1D), (0x3B1, 0x1FB0), (0x3B9, 0x1FD0), (0x3C5, 0x1FE0),
      (0x430, 0x4D1), (0x435, 0x4D7), (0x436, 0x4C2), (0x438, 0x439), (0x443, 0x45E),
      (0x1EA1, 0x1EB7)]),
    (0x307, [(0x61, 0x227), (0x62, 0x1E03), (0x63, 0x10B), (0x64, 0x1E0B), (0x65, 0x117),
      (0x66, 0x1E1F), (0x67, 0x121), (0x68, 0x1E23), (0x6D, 0x1E41), (0x6E, 0x1E45),
      (0x6F, 0x22F), (0x70, 0x1E57), (0x72, 0x1E59), (0x73, 0x1E61), (0x74, 0x1E6B),
      (0x77, 0x1E87), (0x78, 0x1E8B), (0x79, 0x1E8F), (0x7A, 0x17C), (0x15B, 0x1E65),
      (0x161, 0x1E67), (0x1E63, 0x1E69)]),
    (0x308, [(0x61, 0xE4), (0x65, 0xEB), (0x68, 0x1E27), (0x69, 0xEF), (0x6F, 0xF6),
      (0x74, 0x1E97), (0x75, 0xFC), (0x77, 0x1E85), (0x78, 0x1E8D), (0x79, 0xFF), (0xF5, 0x1E4F),
      (0x16B, 0x1E7B), (0x3B9, 0x3CA), (0x3C5, 0x3CB), (0x430, 0x4D3), (0x435, 0x451),
      (0x436, 0x4DD), (0x437, 0x4DF), (0x438, 0x4E5), (0x43E, 0x4E7), (0x443, 0x4F1),
      (0x447, 0x4F5), (0x44B, 0x4F9), (0x44D, 0x4ED), (0x456, 0x457), (0x4D9, 0x4DB),
      (0x4E9, 0x4EB)]),
    (0x309, [(0x61, 0x1EA3), (0x65, 0x1EBB), (0x69, 0x1EC9), (0x6F, 0x1ECF), (0x75, 0x1EE7),
      (0x79, 0x1EF7), (0xE2, 0x1EA9), (0xEA, 0x1EC3), (0xF4, 0x1ED5), (0x103, 0x1EB3),
      (0x1A1, 0x1EDF), (0x1B0, 0x1EED)]),
    (0x30A, [(0x61, 0xE5), (0x75, 0x16F), (0x77, 0x1E98), (0x79, 0x1E99)]),
    (0x30B, [(0x6F, 0x151), (0x75, 0x171), (0x443, 0x4F3)]),
    (0x30C, [(0x61, 0x1CE), (0x63, 0x10D), (0x64, 0x10F), (0x65, 0x11B), (0x67, 0x1E7),
      (0x68, 0x21F), (0x69, 0x1D0), (0x6A, 0x1F0), (0x6B, 0x1E9), (0x6C, 0x13E), (0x6E, 0x148),
      (0x6F, 0x1D2), (0x72, 0x159), (0x73, 0x161), (0x74, 0x165), (0x75, 0x1D4), (0x7A, 0x17E),
      (0xFC, 0x1DA), (0x292, 0x1EF)]),
    (0x30F, [(0x61, 0x201), (0x65, 0x205), (0x69, 0x209), (0x6F, 0x20D), (0x72, 0x211),
      (0x75, 0x215), (0x475, 0x477)]),
    (0x311, [(0x61, 0x203), (0x65, 0x207), (0x69, 0x20B), (0x6F, 0x20F), (0x72, 0x213),
      (0x75, 0x217)]),
    (0x313, [(0x3B1, 0x1F00), (0x3B5, 0x1F10), (0x3B7, 0x1F20), (0x3B9, 0x1F30), (0x3BF, 0x1F40),
      (0x3C1, 0x1FE4), (0x3C5, 0x1F50), (0x3C9, 0x1F60)]),
    (0x314, [(0x3B1, 0x1F01), (0x3B5, 0x1F11), (0x3B7, 0x1F21), (0x3B9, 0x1F31), (0x3BF, 0x1F41),
      (0x3C1, 0x1FE5), (0x3C5, 0x1F51), (0x3C9, 0x1F61)]),
    (0x31B, [(0x6F, 0x1A1), (0x75, 0x1B0)]),
    (0x323, [(0x61, 0x1EA1), (0x62, 0x1E05), (0x64, 0x1E0D), (0x65, 0x1EB9), (0x68, 0x1E25),
      (0x69, 0x1ECB), (0x6B, 0x1E33), (0x6C, 0x1E37), (0x6D, 0x1E43), (0x6E, 0x1E47),
      (0x6F, 0x1ECD), (0x72, 0x1E5B), (0x73, 0x1E63), (0x74, 0x1E6D), (0x75, 0x1EE5),
      (0x76, 0x1E7F), (0x77, 0x1E89), (0x79, 0x1EF5), (0x7A, 0x1E93), (0x1A1, 0x1EE3),
      (0x1B0, 0x1EF1)]),
    (0x324, [(0x75, 0x1E73)]),
    (0x325, [(0x61, 0x1E01)]),
    (0x326, [(0x73, 0x219), (0x74, 0x21B)]),
    (0x327, [(0x63, 0xE7), (0x64, 0x1E11), (0x65, 0x229), (0x67, 0x123), (0x68, 0x1E29),
      (0x6B, 0x137), (0x6C, 0x13C), (0x6E, 0x146), (0x72, 0x157), (0x73, 0x15F), (0x74, 0x163)]),
    (0x328, [(0x61, 0x105), (0x65, 0x119), (0x69, 0x12F), (0x6F, 0x1EB), (0x75, 0x173)]),
    (0x32D, [(0x64, 0x1E13), (0x65, 0x1E19), (0x6C, 0x1E3D), (0x6E, 0x1E4B), (0x74, 0x1E71),
      (0x75, 0x1E77)]),
    (0x32E, [(0x68, 0x1E2B)]),
    (0x330, [(0x65, 0x1E1B), (0x69, 0x1E2D), (0x75, 0x1E75)]),
    (0x331, [(0x62, 0x1E07), (0x64, 0x1E0F), (0x68, 0x1E96), (0x6B, 0x1E35), (0x6C, 0x1E3B),
      (0x6E, 0x1E49), (0x72, 0x1E5F), (0x74, 0x1E6F), (0x7A, 0x1E95)]),
    (0x338, [(0x3C, 0x226E), (0x3D, 0x2260), (0x3E, 0x226F), (0x2190, 0x219A), (0x2192, 0x219B),
      (0x2194, 0x21AE), (0x21D0, 0x21CD), (0x21D2, 0x21CF), (0x21D4, 0x21CE), (0x2203, 0x2204),
      (0x2208, 0x2209), (0x220B, 0x220C), (0x2223, 0x2224), (0x2225, 0x2226), (0x223C, 0x2241),
      (0x2243, 0x2244), (0x2245, 0x2247), (0x2248, 0x2249), (0x224D, 0x226D), (0x2261, 0x2262),
      (0x2264, 0x2270), (0x2265, 0x2271), (0x2272, 0x2274), (0x2273, 0x2275), (0x2276, 0x2278),
      (0x2277, 0x2279), (0x227A, 0x2280), (0x227B, 0x2281), (0x227C, 0x22E0), (0x227D, 0x22E1),
      (0x2282, 0x2284), (0x2283, 0x2285), (0x2286, 0x2288), (0x2287, 0x2289), (0x2291, 0x22E2),
      (0x2292, 0x22E3), (0x22A2, 0x22AC), (0x22A8, 0x22AD), (0x22A9, 0x22AE), (0x22AB, 0x22AF),
      (0x22B2, 0x22EA), (0x22B3, 0x22EB), (0x22B4, 0x22EC), (0x22B5, 0x22ED)]),
    (0x342, [(0x3B1, 0x1FB6), (0x3B7, 0x1FC6), (0x3B9, 0x1FD6), (0x3C5, 0x1FE6), (0x3C9, 0x1FF6),
      (0x3CA, 0x1FD7), (0x3CB, 0x1FE7), (0x1F00, 0x1F06), (0x1F01, 0x1F07), (0x1F20, 0x1F26),
      (0x1F21, 0x1F27), (0x1F30, 0x1F36), (0x1F31, 0x1F37), (0x1F50, 0x1F56), (0x1F51, 0x1F57),
      (0x1F60, 0x1F66), (0x1F61, 0x1F67)]),
    (0x653, [(0x627, 0x622)]),
    (0x654, [(0x627, 0x623), (0x648, 0x624), (0x64A, 0x626), (0x6C1, 0x6C2), (0x6D2, 0x6D3),
      (0x6D5, 0x6C0)]),
    (0x655, [(0x627, 0x625)]),
    (0x93C, [(0x928, 0x929), (0x930, 0x931), (0x933, 0x934)]),
    (0x9BE, [(0x9C7, 0x9CB)]),
    (0x9D7, [(0x9C7, 0x9CC)]),
    (0xB3E, [(0xB47, 0xB4B)]),
    (0xB56, [(0xB47, 0xB48)]),
    (0xB57, [(0xB47, 0xB4C)]),
    (0xBBE, [(0xBC6, 0xBCA), (0xBC7, 0xBCB)]),
    (0xBD7, [(0xB92, 0xB94), (0xBC6, 0xBCC)]),
    (0xC56, [(0xC46, 0xC48)]),
    (0xCC2, [(0xCC6, 0xCCA)]),
    (0xCD5, [(0xCBF, 0xCC0), (0xCC6, 0xCC7), (0xCCA, 0xCCB)]),
    (0xCD6, [(0xCC6, 0xCC8)]),
    (0xD3E, [(0xD46, 0xD4A), (0xD47, 0xD4B)]),
    (0xD57, [(0xD46, 0xD4C)]),
    (0xDCA, [(0xDD9, 0xDDA), (0xDDC, 0xDDD)]),
    (0xDCF, [(0xDD9, 0xDDC)]),
    (0xDDF, [(0xDD9, 0xDDE)]),
    (0x102E, [(0x1025, 0x1026)]),
    (0x1B35, [(0x1B05, 0x1B06), (0x1B07, 0x1B08), (0x1B09, 0x1B0A), (0x1B0B, 0x1B0C),
      (0x1B0D, 0x1B0E), (0x1B11, 0x1B12), (0x1B3A, 0x1B3B), (0x1B3C, 0x1B3D), (0x1B3E, 0x1B40),
      (0x1B3F, 0x1B41), (0x1B42, 0x1B43)]),
    (0x3099, [(0x3046, 0x3094), (0x304B, 0x304C), (0x304D, 0x304E), (0x304F, 0x3050),
      (0x3051, 0x3052), (0x3053, 0x3054), (0x3055, 0x3056), (0x3057, 0x3058), (0x3059, 0x305A),
      (0x305B, 0x305C), (0x305D, 0x305E), (0x305F, 0x3060), (0x3061, 0x3062), (0x3064, 0x3065),
      (0x3066, 0x3067), (0x3068, 0x3069), (0x306F, 0x3070), (0x3072, 0x3073), (0x3075, 0x3076),
      (0x3078, 0x3079), (0x307B, 0x307C), (0x309D, 0x309E), (0x30A6, 0x30F4), (0x30AB, 0x30AC),
      (0x30AD, 0x30AE), (0x30AF, 0x30B0), (0x30B1, 0x30B2), (0x30B3, 0x30B4), (0x30B5, 0x30B6),
      (0x30B7, 0x30B8), (0x30B9, 0x30BA), (0x30BB, 0x30BC), (0x30BD, 0x30BE), (0x30BF, 0x30C0),
      (0x30C1, 0x30C2), (0x30C4, 0x30C5), (0x30C6, 0x30C7), (0x30C8, 0x30C9), (0x30CF, 0x30D0),
      (0x30D2, 0x30D3), (0x30D5, 0x30D6), (0x30D8, 0x30D9), (0x30DB, 0x30DC), (0x30EF, 0x30F7),
      (0x30F0, 0x30F8), (0x30F1, 0x30F9), (0x30F2, 0x30FA), (0x30FD, 0x30FE)]),
    (0x309A, [(0x306F, 0x3071), (0x3072, 0x3074), (0x3075, 0x3077), (0x3078, 0x307A),
      (0x307B, 0x307D), (0x30CF, 0x30D1), (0x30D2, 0x30D4), (0x30D5, 0x30D7), (0x30D8, 0x30DA),
      (0x30DB, 0x30DD)]),
    (0x110BA, [(0x11099, 0x1109A), (0x1109B, 0x1109C), (0x110A5, 0x110AB)]),
    (0x11127, [(0x11131, 0x1112E), (0x11132, 0x1112F)]),
    (0x1133E, [(0x11347, 0x1134B)]),
    (0x11357, [(0x11347, 0x1134C)]),
    (0x114B0, [(0x114B9, 0x114BC)]),
    (0x114BA, [(0x114B9, 0x114BB)]),
    (0x114BD, [(0x114B9, 0x114BE)]),
    (0x115AF, [(0x115B8, 0x115BA), (0x115B9, 0x115BB)]),
    (0x11930, [(0x11935, 0x11938)])]

end CompositionTable

end Tollgate
