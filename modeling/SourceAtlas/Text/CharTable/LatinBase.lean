/-!
# Latin letters with marks

Latin letters that carry a mark, paired with their base letter.
-/

namespace SourceAtlas.Text.CharTable

/-- Pairs of a code point and the code point of its ASCII base letter. -/
def latinBase : Array (Nat × Nat) := #[
  (0xC0, 0x41), (0xC1, 0x41), (0xC2, 0x41), (0xC3, 0x41), (0xC4, 0x41), (0xC5, 0x41),
  (0xC7, 0x43), (0xC8, 0x45), (0xC9, 0x45), (0xCA, 0x45), (0xCB, 0x45), (0xCC, 0x49),
  (0xCD, 0x49), (0xCE, 0x49), (0xCF, 0x49), (0xD1, 0x4E), (0xD2, 0x4F), (0xD3, 0x4F),
  (0xD4, 0x4F), (0xD5, 0x4F), (0xD6, 0x4F), (0xD9, 0x55), (0xDA, 0x55), (0xDB, 0x55),
  (0xDC, 0x55), (0xDD, 0x59), (0xDF, 0x73), (0xE0, 0x61), (0xE1, 0x61), (0xE2, 0x61),
  (0xE3, 0x61), (0xE4, 0x61), (0xE5, 0x61), (0xE7, 0x63), (0xE8, 0x65), (0xE9, 0x65),
  (0xEA, 0x65), (0xEB, 0x65), (0xEC, 0x69), (0xED, 0x69), (0xEE, 0x69), (0xEF, 0x69),
  (0xF1, 0x6E), (0xF2, 0x6F), (0xF3, 0x6F), (0xF4, 0x6F), (0xF5, 0x6F), (0xF6, 0x6F),
  (0xF9, 0x75), (0xFA, 0x75), (0xFB, 0x75), (0xFC, 0x75), (0xFD, 0x79), (0xFF, 0x79),
  (0x100, 0x41), (0x101, 0x61), (0x102, 0x41), (0x103, 0x61), (0x104, 0x41), (0x105, 0x61),
  (0x106, 0x43), (0x107, 0x63), (0x108, 0x43), (0x109, 0x63), (0x10A, 0x43), (0x10B, 0x63),
  (0x10C, 0x43), (0x10D, 0x63), (0x10E, 0x44), (0x10F, 0x64), (0x112, 0x45), (0x113, 0x65),
  (0x114, 0x45), (0x115, 0x65), (0x116, 0x45), (0x117, 0x65), (0x118, 0x45), (0x119, 0x65),
  (0x11A, 0x45), (0x11B, 0x65), (0x11C, 0x47), (0x11D, 0x67), (0x11E, 0x47), (0x11F, 0x67),
  (0x120, 0x47), (0x121, 0x67), (0x122, 0x47), (0x123, 0x67), (0x124, 0x48), (0x125, 0x68),
  (0x128, 0x49), (0x129, 0x69), (0x12A, 0x49), (0x12B, 0x69), (0x12C, 0x49), (0x12D, 0x69),
  (0x12E, 0x49), (0x12F, 0x69), (0x130, 0x49), (0x131, 0x69), (0x134, 0x4A), (0x135, 0x6A),
  (0x136, 0x4B), (0x137, 0x6B), (0x139, 0x4C), (0x13A, 0x6C), (0x13B, 0x4C), (0x13C, 0x6C),
  (0x13D, 0x4C), (0x13E, 0x6C), (0x143, 0x4E), (0x144, 0x6E), (0x145, 0x4E), (0x146, 0x6E),
  (0x147, 0x4E), (0x148, 0x6E), (0x14C, 0x4F), (0x14D, 0x6F), (0x14E, 0x4F), (0x14F, 0x6F),
  (0x150, 0x4F), (0x151, 0x6F), (0x154, 0x52), (0x155, 0x72), (0x156, 0x52), (0x157, 0x72),
  (0x158, 0x52), (0x159, 0x72), (0x15A, 0x53), (0x15B, 0x73), (0x15C, 0x53), (0x15D, 0x73),
  (0x15E, 0x53), (0x15F, 0x73), (0x160, 0x53), (0x161, 0x73), (0x162, 0x54), (0x163, 0x74),
  (0x164, 0x54), (0x165, 0x74), (0x168, 0x55), (0x169, 0x75), (0x16A, 0x55), (0x16B, 0x75),
  (0x16C, 0x55), (0x16D, 0x75), (0x16E, 0x55), (0x16F, 0x75), (0x170, 0x55), (0x171, 0x75),
  (0x172, 0x55), (0x173, 0x75), (0x174, 0x57), (0x175, 0x77), (0x176, 0x59), (0x177, 0x79),
  (0x178, 0x59), (0x179, 0x5A), (0x17A, 0x7A), (0x17B, 0x5A), (0x17C, 0x7A), (0x17D, 0x5A),
  (0x17E, 0x7A), (0x17F, 0x73), (0x1A0, 0x4F), (0x1A1, 0x6F), (0x1AF, 0x55), (0x1B0, 0x75),
  (0x1CD, 0x41), (0x1CE, 0x61), (0x1CF, 0x49), (0x1D0, 0x69), (0x1D1, 0x4F), (0x1D2, 0x6F),
  (0x1D3, 0x55), (0x1D4, 0x75), (0x1D5, 0x55), (0x1D6, 0x75), (0x1D7, 0x55), (0x1D8, 0x75),
  (0x1D9, 0x55), (0x1DA, 0x75), (0x1DB, 0x55), (0x1DC, 0x75), (0x1DE, 0x41), (0x1DF, 0x61),
  (0x1E0, 0x41), (0x1E1, 0x61), (0x1E6, 0x47), (0x1E7, 0x67), (0x1E8, 0x4B), (0x1E9, 0x6B),
  (0x1EA, 0x4F), (0x1EB, 0x6F), (0x1EC, 0x4F), (0x1ED, 0x6F), (0x1F0, 0x6A), (0x1F4, 0x47),
  (0x1F5, 0x67), (0x1F8, 0x4E), (0x1F9, 0x6E), (0x1FA, 0x41), (0x1FB, 0x61), (0x200, 0x41),
  (0x201, 0x61), (0x202, 0x41), (0x203, 0x61), (0x204, 0x45), (0x205, 0x65), (0x206, 0x45),
  (0x207, 0x65), (0x208, 0x49), (0x209, 0x69), (0x20A, 0x49), (0x20B, 0x69), (0x20C, 0x4F),
  (0x20D, 0x6F), (0x20E, 0x4F), (0x20F, 0x6F), (0x210, 0x52), (0x211, 0x72), (0x212, 0x52),
  (0x213, 0x72), (0x214, 0x55), (0x215, 0x75), (0x216, 0x55), (0x217, 0x75), (0x218, 0x53),
  (0x219, 0x73), (0x21A, 0x54), (0x21B, 0x74), (0x21E, 0x48), (0x21F, 0x68), (0x226, 0x41),
  (0x227, 0x61), (0x228, 0x45), (0x229, 0x65), (0x22A, 0x4F), (0x22B, 0x6F), (0x22C, 0x4F),
  (0x22D, 0x6F), (0x22E, 0x4F), (0x22F, 0x6F), (0x230, 0x4F), (0x231, 0x6F), (0x232, 0x59),
  (0x233, 0x79), (0x1E00, 0x41), (0x1E01, 0x61), (0x1E02, 0x42), (0x1E03, 0x62), (0x1E04, 0x42),
  (0x1E05, 0x62), (0x1E06, 0x42), (0x1E07, 0x62), (0x1E08, 0x43), (0x1E09, 0x63), (0x1E0A, 0x44),
  (0x1E0B, 0x64), (0x1E0C, 0x44), (0x1E0D, 0x64), (0x1E0E, 0x44), (0x1E0F, 0x64), (0x1E10, 0x44),
  (0x1E11, 0x64), (0x1E12, 0x44), (0x1E13, 0x64), (0x1E14, 0x45), (0x1E15, 0x65), (0x1E16, 0x45),
  (0x1E17, 0x65), (0x1E18, 0x45), (0x1E19, 0x65), (0x1E1A, 0x45), (0x1E1B, 0x65), (0x1E1C, 0x45),
  (0x1E1D, 0x65), (0x1E1E, 0x46), (0x1E1F, 0x66), (0x1E20, 0x47), (0x1E21, 0x67), (0x1E22, 0x48),
  (0x1E23, 0x68), (0x1E24, 0x48), (0x1E25, 0x68), (0x1E26, 0x48), (0x1E27, 0x68), (0x1E28, 0x48),
  (0x1E29, 0x68), (0x1E2A, 0x48), (0x1E2B, 0x68), (0x1E2C, 0x49), (0x1E2D, 0x69), (0x1E2E, 0x49),
  (0x1E2F, 0x69), (0x1E30, 0x4B), (0x1E31, 0x6B), (0x1E32, 0x4B), (0x1E33, 0x6B), (0x1E34, 0x4B),
  (0x1E35, 0x6B), (0x1E36, 0x4C), (0x1E37, 0x6C), (0x1E38, 0x4C), (0x1E39, 0x6C), (0x1E3A, 0x4C),
  (0x1E3B, 0x6C), (0x1E3C, 0x4C), (0x1E3D, 0x6C), (0x1E3E, 0x4D), (0x1E3F, 0x6D), (0x1E40, 0x4D),
  (0x1E41, 0x6D), (0x1E42, 0x4D), (0x1E43, 0x6D), (0x1E44, 0x4E), (0x1E45, 0x6E), (0x1E46, 0x4E),
  (0x1E47, 0x6E), (0x1E48, 0x4E), (0x1E49, 0x6E), (0x1E4A, 0x4E), (0x1E4B, 0x6E), (0x1E4C, 0x4F),
  (0x1E4D, 0x6F), (0x1E4E, 0x4F), (0x1E4F, 0x6F), (0x1E50, 0x4F), (0x1E51, 0x6F), (0x1E52, 0x4F),
  (0x1E53, 0x6F), (0x1E54, 0x50), (0x1E55, 0x70), (0x1E56, 0x50), (0x1E57, 0x70), (0x1E58, 0x52),
  (0x1E59, 0x72), (0x1E5A, 0x52), (0x1E5B, 0x72), (0x1E5C, 0x52), (0x1E5D, 0x72), (0x1E5E, 0x52),
  (0x1E5F, 0x72), (0x1E60, 0x53), (0x1E61, 0x73), (0x1E62, 0x53), (0x1E63, 0x73), (0x1E64, 0x53),
  (0x1E65, 0x73), (0x1E66, 0x53), (0x1E67, 0x73), (0x1E68, 0x53), (0x1E69, 0x73), (0x1E6A, 0x54),
  (0x1E6B, 0x74), (0x1E6C, 0x54), (0x1E6D, 0x74), (0x1E6E, 0x54), (0x1E6F, 0x74), (0x1E70, 0x54),
  (0x1E71, 0x74), (0x1E72, 0x55), (0x1E73, 0x75), (0x1E74, 0x55), (0x1E75, 0x75), (0x1E76, 0x55),
  (0x1E77, 0x75), (0x1E78, 0x55), (0x1E79, 0x75), (0x1E7A, 0x55), (0x1E7B, 0x75), (0x1E7C, 0x56),
  (0x1E7D, 0x76), (0x1E7E, 0x56), (0x1E7F, 0x76), (0x1E80, 0x57), (0x1E81, 0x77), (0x1E82, 0x57),
  (0x1E83, 0x77), (0x1E84, 0x57), (0x1E85, 0x77), (0x1E86, 0x57), (0x1E87, 0x77), (0x1E88, 0x57),
  (0x1E89, 0x77), (0x1E8A, 0x58), (0x1E8B, 0x78), (0x1E8C, 0x58), (0x1E8D, 0x78), (0x1E8E, 0x59),
  (0x1E8F, 0x79), (0x1E90, 0x5A), (0x1E91, 0x7A), (0x1E92, 0x5A), (0x1E93, 0x7A), (0x1E94, 0x5A),
  (0x1E95, 0x7A), (0x1E96, 0x68), (0x1E97, 0x74), (0x1E98, 0x77), (0x1E99, 0x79), (0x1E9B, 0x73),
  (0x1EA0, 0x41), (0x1EA1, 0x61), (0x1EA2, 0x41), (0x1EA3, 0x61), (0x1EA4, 0x41), (0x1EA5, 0x61),
  (0x1EA6, 0x41), (0x1EA7, 0x61), (0x1EA8, 0x41), (0x1EA9, 0x61), (0x1EAA, 0x41), (0x1EAB, 0x61),
  (0x1EAC, 0x41), (0x1EAD, 0x61), (0x1EAE, 0x41), (0x1EAF, 0x61), (0x1EB0, 0x41), (0x1EB1, 0x61),
  (0x1EB2, 0x41), (0x1EB3, 0x61), (0x1EB4, 0x41), (0x1EB5, 0x61), (0x1EB6, 0x41), (0x1EB7, 0x61),
  (0x1EB8, 0x45), (0x1EB9, 0x65), (0x1EBA, 0x45), (0x1EBB, 0x65), (0x1EBC, 0x45), (0x1EBD, 0x65),
  (0x1EBE, 0x45), (0x1EBF, 0x65), (0x1EC0, 0x45), (0x1EC1, 0x65), (0x1EC2, 0x45), (0x1EC3, 0x65),
  (0x1EC4, 0x45), (0x1EC5, 0x65), (0x1EC6, 0x45), (0x1EC7, 0x65), (0x1EC8, 0x49), (0x1EC9, 0x69),
  (0x1ECA, 0x49), (0x1ECB, 0x69), (0x1ECC, 0x4F), (0x1ECD, 0x6F), (0x1ECE, 0x4F), (0x1ECF, 0x6F),
  (0x1ED0, 0x4F), (0x1ED1, 0x6F), (0x1ED2, 0x4F), (0x1ED3, 0x6F), (0x1ED4, 0x4F), (0x1ED5, 0x6F),
  (0x1ED6, 0x4F), (0x1ED7, 0x6F), (0x1ED8, 0x4F), (0x1ED9, 0x6F), (0x1EDA, 0x4F), (0x1EDB, 0x6F),
  (0x1EDC, 0x4F), (0x1EDD, 0x6F), (0x1EDE, 0x4F), (0x1EDF, 0x6F), (0x1EE0, 0x4F), (0x1EE1, 0x6F),
  (0x1EE2, 0x4F), (0x1EE3, 0x6F), (0x1EE4, 0x55), (0x1EE5, 0x75), (0x1EE6, 0x55), (0x1EE7, 0x75),
  (0x1EE8, 0x55), (0x1EE9, 0x75), (0x1EEA, 0x55), (0x1EEB, 0x75), (0x1EEC, 0x55), (0x1EED, 0x75),
  (0x1EEE, 0x55), (0x1EEF, 0x75), (0x1EF0, 0x55), (0x1EF1, 0x75), (0x1EF2, 0x59), (0x1EF3, 0x79),
  (0x1EF4, 0x59), (0x1EF5, 0x79), (0x1EF6, 0x59), (0x1EF7, 0x79), (0x1EF8, 0x59), (0x1EF9, 0x79)]

end SourceAtlas.Text.CharTable
