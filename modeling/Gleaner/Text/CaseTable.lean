/-!
Case maps of the characters beyond ASCII: runs of characters that move alike, by increasing start.
Runs with a step may interleave with their neighbours. The few characters with a longer image are
listed apart.
-/
namespace Gleaner.Text

/-- Characters `step` apart from `start`, `count` of them, moved by `shift`. -/
structure CaseRun where
  start : Nat
  count : Nat
  step : Nat
  shift : Int

def lowerRuns : List CaseRun := [
  ⟨0xc0, 0x17, 1, 0x20⟩, ⟨0xd8, 7, 1, 0x20⟩, ⟨0x100, 0x18, 2, 0x1⟩, ⟨0x132, 3, 2, 0x1⟩,
  ⟨0x139, 8, 2, 0x1⟩, ⟨0x14a, 0x17, 2, 0x1⟩, ⟨0x178, 1, 1, -0x79⟩, ⟨0x179, 3, 2, 0x1⟩,
  ⟨0x181, 1, 1, 0xd2⟩, ⟨0x182, 2, 2, 0x1⟩, ⟨0x186, 1, 1, 0xce⟩, ⟨0x187, 1, 1, 0x1⟩,
  ⟨0x189, 2, 1, 0xcd⟩, ⟨0x18b, 1, 1, 0x1⟩, ⟨0x18e, 1, 1, 0x4f⟩, ⟨0x18f, 1, 1, 0xca⟩,
  ⟨0x190, 1, 1, 0xcb⟩, ⟨0x191, 1, 1, 0x1⟩, ⟨0x193, 1, 1, 0xcd⟩, ⟨0x194, 1, 1, 0xcf⟩,
  ⟨0x196, 1, 1, 0xd3⟩, ⟨0x197, 1, 1, 0xd1⟩, ⟨0x198, 1, 1, 0x1⟩, ⟨0x19c, 1, 1, 0xd3⟩,
  ⟨0x19d, 1, 1, 0xd5⟩, ⟨0x19f, 1, 1, 0xd6⟩, ⟨0x1a0, 3, 2, 0x1⟩, ⟨0x1a6, 1, 1, 0xda⟩,
  ⟨0x1a7, 1, 1, 0x1⟩, ⟨0x1a9, 1, 1, 0xda⟩, ⟨0x1ac, 1, 1, 0x1⟩, ⟨0x1ae, 1, 1, 0xda⟩,
  ⟨0x1af, 1, 1, 0x1⟩, ⟨0x1b1, 2, 1, 0xd9⟩, ⟨0x1b3, 2, 2, 0x1⟩, ⟨0x1b7, 1, 1, 0xdb⟩,
  ⟨0x1b8, 1, 1, 0x1⟩, ⟨0x1bc, 1, 1, 0x1⟩, ⟨0x1c4, 1, 1, 0x2⟩, ⟨0x1c5, 1, 1, 0x1⟩,
  ⟨0x1c7, 1, 1, 0x2⟩, ⟨0x1c8, 1, 1, 0x1⟩, ⟨0x1ca, 1, 1, 0x2⟩, ⟨0x1cb, 9, 2, 0x1⟩,
  ⟨0x1de, 9, 2, 0x1⟩, ⟨0x1f1, 1, 1, 0x2⟩, ⟨0x1f2, 2, 2, 0x1⟩, ⟨0x1f6, 1, 1, -0x61⟩,
  ⟨0x1f7, 1, 1, -0x38⟩, ⟨0x1f8, 0x14, 2, 0x1⟩, ⟨0x220, 1, 1, -0x82⟩, ⟨0x222, 9, 2, 0x1⟩,
  ⟨0x23a, 1, 1, 0x2a2b⟩, ⟨0x23b, 1, 1, 0x1⟩, ⟨0x23d, 1, 1, -0xa3⟩, ⟨0x23e, 1, 1, 0x2a28⟩,
  ⟨0x241, 1, 1, 0x1⟩, ⟨0x243, 1, 1, -0xc3⟩, ⟨0x244, 1, 1, 0x45⟩, ⟨0x245, 1, 1, 0x47⟩,
  ⟨0x246, 5, 2, 0x1⟩, ⟨0x370, 2, 2, 0x1⟩, ⟨0x376, 1, 1, 0x1⟩, ⟨0x37f, 1, 1, 0x74⟩,
  ⟨0x386, 1, 1, 0x26⟩, ⟨0x388, 3, 1, 0x25⟩, ⟨0x38c, 1, 1, 0x40⟩, ⟨0x38e, 2, 1, 0x3f⟩,
  ⟨0x391, 0x11, 1, 0x20⟩, ⟨0x3a3, 9, 1, 0x20⟩, ⟨0x3cf, 1, 1, 0x8⟩, ⟨0x3d8, 0xc, 2, 0x1⟩,
  ⟨0x3f4, 1, 1, -0x3c⟩, ⟨0x3f7, 1, 1, 0x1⟩, ⟨0x3f9, 1, 1, -0x7⟩, ⟨0x3fa, 1, 1, 0x1⟩,
  ⟨0x3fd, 3, 1, -0x82⟩, ⟨0x400, 0x10, 1, 0x50⟩, ⟨0x410, 0x20, 1, 0x20⟩, ⟨0x460, 0x11, 2, 0x1⟩,
  ⟨0x48a, 0x1b, 2, 0x1⟩, ⟨0x4c0, 1, 1, 0xf⟩, ⟨0x4c1, 7, 2, 0x1⟩, ⟨0x4d0, 0x30, 2, 0x1⟩,
  ⟨0x531, 0x26, 1, 0x30⟩, ⟨0x10a0, 0x26, 1, 0x1c60⟩, ⟨0x10c7, 1, 1, 0x1c60⟩,
  ⟨0x10cd, 1, 1, 0x1c60⟩, ⟨0x13a0, 0x50, 1, 0x97d0⟩, ⟨0x13f0, 6, 1, 0x8⟩, ⟨0x1c89, 1, 1, 0x1⟩,
  ⟨0x1c90, 0x2b, 1, -0xbc0⟩, ⟨0x1cbd, 3, 1, -0xbc0⟩, ⟨0x1e00, 0x4b, 2, 0x1⟩,
  ⟨0x1e9e, 1, 1, -0x1dbf⟩, ⟨0x1ea0, 0x30, 2, 0x1⟩, ⟨0x1f08, 8, 1, -0x8⟩, ⟨0x1f18, 6, 1, -0x8⟩,
  ⟨0x1f28, 8, 1, -0x8⟩, ⟨0x1f38, 8, 1, -0x8⟩, ⟨0x1f48, 6, 1, -0x8⟩, ⟨0x1f59, 4, 2, -0x8⟩,
  ⟨0x1f68, 8, 1, -0x8⟩, ⟨0x1f88, 8, 1, -0x8⟩, ⟨0x1f98, 8, 1, -0x8⟩, ⟨0x1fa8, 8, 1, -0x8⟩,
  ⟨0x1fb8, 2, 1, -0x8⟩, ⟨0x1fba, 2, 1, -0x4a⟩, ⟨0x1fbc, 1, 1, -0x9⟩, ⟨0x1fc8, 4, 1, -0x56⟩,
  ⟨0x1fcc, 1, 1, -0x9⟩, ⟨0x1fd8, 2, 1, -0x8⟩, ⟨0x1fda, 2, 1, -0x64⟩, ⟨0x1fe8, 2, 1, -0x8⟩,
  ⟨0x1fea, 2, 1, -0x70⟩, ⟨0x1fec, 1, 1, -0x7⟩, ⟨0x1ff8, 2, 1, -0x80⟩, ⟨0x1ffa, 2, 1, -0x7e⟩,
  ⟨0x1ffc, 1, 1, -0x9⟩, ⟨0x2126, 1, 1, -0x1d5d⟩, ⟨0x212a, 1, 1, -0x20bf⟩, ⟨0x212b, 1, 1, -0x2046⟩,
  ⟨0x2132, 1, 1, 0x1c⟩, ⟨0x2160, 0x10, 1, 0x10⟩, ⟨0x2183, 1, 1, 0x1⟩, ⟨0x24b6, 0x1a, 1, 0x1a⟩,
  ⟨0x2c00, 0x30, 1, 0x30⟩, ⟨0x2c60, 1, 1, 0x1⟩, ⟨0x2c62, 1, 1, -0x29f7⟩, ⟨0x2c63, 1, 1, -0xee6⟩,
  ⟨0x2c64, 1, 1, -0x29e7⟩, ⟨0x2c67, 3, 2, 0x1⟩, ⟨0x2c6d, 1, 1, -0x2a1c⟩, ⟨0x2c6e, 1, 1, -0x29fd⟩,
  ⟨0x2c6f, 1, 1, -0x2a1f⟩, ⟨0x2c70, 1, 1, -0x2a1e⟩, ⟨0x2c72, 1, 1, 0x1⟩, ⟨0x2c75, 1, 1, 0x1⟩,
  ⟨0x2c7e, 2, 1, -0x2a3f⟩, ⟨0x2c80, 0x32, 2, 0x1⟩, ⟨0x2ceb, 2, 2, 0x1⟩, ⟨0x2cf2, 1, 1, 0x1⟩,
  ⟨0xa640, 0x17, 2, 0x1⟩, ⟨0xa680, 0xe, 2, 0x1⟩, ⟨0xa722, 7, 2, 0x1⟩, ⟨0xa732, 0x1f, 2, 0x1⟩,
  ⟨0xa779, 2, 2, 0x1⟩, ⟨0xa77d, 1, 1, -0x8a04⟩, ⟨0xa77e, 5, 2, 0x1⟩, ⟨0xa78b, 1, 1, 0x1⟩,
  ⟨0xa78d, 1, 1, -0xa528⟩, ⟨0xa790, 2, 2, 0x1⟩, ⟨0xa796, 0xa, 2, 0x1⟩, ⟨0xa7aa, 1, 1, -0xa544⟩,
  ⟨0xa7ab, 1, 1, -0xa54f⟩, ⟨0xa7ac, 1, 1, -0xa54b⟩, ⟨0xa7ad, 1, 1, -0xa541⟩,
  ⟨0xa7ae, 1, 1, -0xa544⟩, ⟨0xa7b0, 1, 1, -0xa512⟩, ⟨0xa7b1, 1, 1, -0xa52a⟩,
  ⟨0xa7b2, 1, 1, -0xa515⟩, ⟨0xa7b3, 1, 1, 0x3a0⟩, ⟨0xa7b4, 8, 2, 0x1⟩, ⟨0xa7c4, 1, 1, -0x30⟩,
  ⟨0xa7c5, 1, 1, -0xa543⟩, ⟨0xa7c6, 1, 1, -0x8a38⟩, ⟨0xa7c7, 2, 2, 0x1⟩, ⟨0xa7cb, 1, 1, -0xa567⟩,
  ⟨0xa7cc, 8, 2, 0x1⟩, ⟨0xa7dc, 1, 1, -0xa641⟩, ⟨0xa7f5, 1, 1, 0x1⟩, ⟨0xff21, 0x1a, 1, 0x20⟩,
  ⟨0x10400, 0x28, 1, 0x28⟩, ⟨0x104b0, 0x24, 1, 0x28⟩, ⟨0x10570, 0xb, 1, 0x27⟩,
  ⟨0x1057c, 0xf, 1, 0x27⟩, ⟨0x1058c, 7, 1, 0x27⟩, ⟨0x10594, 2, 1, 0x27⟩, ⟨0x10c80, 0x33, 1, 0x40⟩,
  ⟨0x10d50, 0x16, 1, 0x20⟩, ⟨0x118a0, 0x20, 1, 0x20⟩, ⟨0x16e40, 0x20, 1, 0x20⟩,
  ⟨0x16ea0, 0x19, 1, 0x1b⟩, ⟨0x1e900, 0x22, 1, 0x22⟩]

def upperRuns : List CaseRun := [
  ⟨0xb5, 1, 1, 0x2e7⟩, ⟨0xe0, 0x17, 1, -0x20⟩, ⟨0xf8, 7, 1, -0x20⟩, ⟨0xff, 1, 1, 0x79⟩,
  ⟨0x101, 0x18, 2, -0x1⟩, ⟨0x131, 1, 1, -0xe8⟩, ⟨0x133, 3, 2, -0x1⟩, ⟨0x13a, 8, 2, -0x1⟩,
  ⟨0x14b, 0x17, 2, -0x1⟩, ⟨0x17a, 3, 2, -0x1⟩, ⟨0x17f, 1, 1, -0x12c⟩, ⟨0x180, 1, 1, 0xc3⟩,
  ⟨0x183, 2, 2, -0x1⟩, ⟨0x188, 1, 1, -0x1⟩, ⟨0x18c, 1, 1, -0x1⟩, ⟨0x192, 1, 1, -0x1⟩,
  ⟨0x195, 1, 1, 0x61⟩, ⟨0x199, 1, 1, -0x1⟩, ⟨0x19a, 1, 1, 0xa3⟩, ⟨0x19b, 1, 1, 0xa641⟩,
  ⟨0x19e, 1, 1, 0x82⟩, ⟨0x1a1, 3, 2, -0x1⟩, ⟨0x1a8, 1, 1, -0x1⟩, ⟨0x1ad, 1, 1, -0x1⟩,
  ⟨0x1b0, 1, 1, -0x1⟩, ⟨0x1b4, 2, 2, -0x1⟩, ⟨0x1b9, 1, 1, -0x1⟩, ⟨0x1bd, 1, 1, -0x1⟩,
  ⟨0x1bf, 1, 1, 0x38⟩, ⟨0x1c5, 1, 1, -0x1⟩, ⟨0x1c6, 1, 1, -0x2⟩, ⟨0x1c8, 1, 1, -0x1⟩,
  ⟨0x1c9, 1, 1, -0x2⟩, ⟨0x1cb, 1, 1, -0x1⟩, ⟨0x1cc, 1, 1, -0x2⟩, ⟨0x1ce, 8, 2, -0x1⟩,
  ⟨0x1dd, 1, 1, -0x4f⟩, ⟨0x1df, 9, 2, -0x1⟩, ⟨0x1f2, 1, 1, -0x1⟩, ⟨0x1f3, 1, 1, -0x2⟩,
  ⟨0x1f5, 1, 1, -0x1⟩, ⟨0x1f9, 0x14, 2, -0x1⟩, ⟨0x223, 9, 2, -0x1⟩, ⟨0x23c, 1, 1, -0x1⟩,
  ⟨0x23f, 2, 1, 0x2a3f⟩, ⟨0x242, 1, 1, -0x1⟩, ⟨0x247, 5, 2, -0x1⟩, ⟨0x250, 1, 1, 0x2a1f⟩,
  ⟨0x251, 1, 1, 0x2a1c⟩, ⟨0x252, 1, 1, 0x2a1e⟩, ⟨0x253, 1, 1, -0xd2⟩, ⟨0x254, 1, 1, -0xce⟩,
  ⟨0x256, 2, 1, -0xcd⟩, ⟨0x259, 1, 1, -0xca⟩, ⟨0x25b, 1, 1, -0xcb⟩, ⟨0x25c, 1, 1, 0xa54f⟩,
  ⟨0x260, 1, 1, -0xcd⟩, ⟨0x261, 1, 1, 0xa54b⟩, ⟨0x263, 1, 1, -0xcf⟩, ⟨0x264, 1, 1, 0xa567⟩,
  ⟨0x265, 1, 1, 0xa528⟩, ⟨0x266, 1, 1, 0xa544⟩, ⟨0x268, 1, 1, -0xd1⟩, ⟨0x269, 1, 1, -0xd3⟩,
  ⟨0x26a, 1, 1, 0xa544⟩, ⟨0x26b, 1, 1, 0x29f7⟩, ⟨0x26c, 1, 1, 0xa541⟩, ⟨0x26f, 1, 1, -0xd3⟩,
  ⟨0x271, 1, 1, 0x29fd⟩, ⟨0x272, 1, 1, -0xd5⟩, ⟨0x275, 1, 1, -0xd6⟩, ⟨0x27d, 1, 1, 0x29e7⟩,
  ⟨0x280, 1, 1, -0xda⟩, ⟨0x282, 1, 1, 0xa543⟩, ⟨0x283, 1, 1, -0xda⟩, ⟨0x287, 1, 1, 0xa52a⟩,
  ⟨0x288, 1, 1, -0xda⟩, ⟨0x289, 1, 1, -0x45⟩, ⟨0x28a, 2, 1, -0xd9⟩, ⟨0x28c, 1, 1, -0x47⟩,
  ⟨0x292, 1, 1, -0xdb⟩, ⟨0x29d, 1, 1, 0xa515⟩, ⟨0x29e, 1, 1, 0xa512⟩, ⟨0x345, 1, 1, 0x54⟩,
  ⟨0x371, 2, 2, -0x1⟩, ⟨0x377, 1, 1, -0x1⟩, ⟨0x37b, 3, 1, 0x82⟩, ⟨0x3ac, 1, 1, -0x26⟩,
  ⟨0x3ad, 3, 1, -0x25⟩, ⟨0x3b1, 0x11, 1, -0x20⟩, ⟨0x3c2, 1, 1, -0x1f⟩, ⟨0x3c3, 9, 1, -0x20⟩,
  ⟨0x3cc, 1, 1, -0x40⟩, ⟨0x3cd, 2, 1, -0x3f⟩, ⟨0x3d0, 1, 1, -0x3e⟩, ⟨0x3d1, 1, 1, -0x39⟩,
  ⟨0x3d5, 1, 1, -0x2f⟩, ⟨0x3d6, 1, 1, -0x36⟩, ⟨0x3d7, 1, 1, -0x8⟩, ⟨0x3d9, 0xc, 2, -0x1⟩,
  ⟨0x3f0, 1, 1, -0x56⟩, ⟨0x3f1, 1, 1, -0x50⟩, ⟨0x3f2, 1, 1, 0x7⟩, ⟨0x3f3, 1, 1, -0x74⟩,
  ⟨0x3f5, 1, 1, -0x60⟩, ⟨0x3f8, 1, 1, -0x1⟩, ⟨0x3fb, 1, 1, -0x1⟩, ⟨0x430, 0x20, 1, -0x20⟩,
  ⟨0x450, 0x10, 1, -0x50⟩, ⟨0x461, 0x11, 2, -0x1⟩, ⟨0x48b, 0x1b, 2, -0x1⟩, ⟨0x4c2, 7, 2, -0x1⟩,
  ⟨0x4cf, 1, 1, -0xf⟩, ⟨0x4d1, 0x30, 2, -0x1⟩, ⟨0x561, 0x26, 1, -0x30⟩, ⟨0x10d0, 0x2b, 1, 0xbc0⟩,
  ⟨0x10fd, 3, 1, 0xbc0⟩, ⟨0x13f8, 6, 1, -0x8⟩, ⟨0x1c80, 1, 1, -0x186e⟩, ⟨0x1c81, 1, 1, -0x186d⟩,
  ⟨0x1c82, 1, 1, -0x1864⟩, ⟨0x1c83, 2, 1, -0x1862⟩, ⟨0x1c85, 1, 1, -0x1863⟩,
  ⟨0x1c86, 1, 1, -0x185c⟩, ⟨0x1c87, 1, 1, -0x1825⟩, ⟨0x1c88, 1, 1, 0x89c2⟩, ⟨0x1c8a, 1, 1, -0x1⟩,
  ⟨0x1d79, 1, 1, 0x8a04⟩, ⟨0x1d7d, 1, 1, 0xee6⟩, ⟨0x1d8e, 1, 1, 0x8a38⟩, ⟨0x1e01, 0x4b, 2, -0x1⟩,
  ⟨0x1e9b, 1, 1, -0x3b⟩, ⟨0x1ea1, 0x30, 2, -0x1⟩, ⟨0x1f00, 8, 1, 0x8⟩, ⟨0x1f10, 6, 1, 0x8⟩,
  ⟨0x1f20, 8, 1, 0x8⟩, ⟨0x1f30, 8, 1, 0x8⟩, ⟨0x1f40, 6, 1, 0x8⟩, ⟨0x1f51, 4, 2, 0x8⟩,
  ⟨0x1f60, 8, 1, 0x8⟩, ⟨0x1f70, 2, 1, 0x4a⟩, ⟨0x1f72, 4, 1, 0x56⟩, ⟨0x1f76, 2, 1, 0x64⟩,
  ⟨0x1f78, 2, 1, 0x80⟩, ⟨0x1f7a, 2, 1, 0x70⟩, ⟨0x1f7c, 2, 1, 0x7e⟩, ⟨0x1fb0, 2, 1, 0x8⟩,
  ⟨0x1fbe, 1, 1, -0x1c25⟩, ⟨0x1fd0, 2, 1, 0x8⟩, ⟨0x1fe0, 2, 1, 0x8⟩, ⟨0x1fe5, 1, 1, 0x7⟩,
  ⟨0x214e, 1, 1, -0x1c⟩, ⟨0x2170, 0x10, 1, -0x10⟩, ⟨0x2184, 1, 1, -0x1⟩, ⟨0x24d0, 0x1a, 1, -0x1a⟩,
  ⟨0x2c30, 0x30, 1, -0x30⟩, ⟨0x2c61, 1, 1, -0x1⟩, ⟨0x2c65, 1, 1, -0x2a2b⟩, ⟨0x2c66, 1, 1, -0x2a28⟩,
  ⟨0x2c68, 3, 2, -0x1⟩, ⟨0x2c73, 1, 1, -0x1⟩, ⟨0x2c76, 1, 1, -0x1⟩, ⟨0x2c81, 0x32, 2, -0x1⟩,
  ⟨0x2cec, 2, 2, -0x1⟩, ⟨0x2cf3, 1, 1, -0x1⟩, ⟨0x2d00, 0x26, 1, -0x1c60⟩, ⟨0x2d27, 1, 1, -0x1c60⟩,
  ⟨0x2d2d, 1, 1, -0x1c60⟩, ⟨0xa641, 0x17, 2, -0x1⟩, ⟨0xa681, 0xe, 2, -0x1⟩, ⟨0xa723, 7, 2, -0x1⟩,
  ⟨0xa733, 0x1f, 2, -0x1⟩, ⟨0xa77a, 2, 2, -0x1⟩, ⟨0xa77f, 5, 2, -0x1⟩, ⟨0xa78c, 1, 1, -0x1⟩,
  ⟨0xa791, 2, 2, -0x1⟩, ⟨0xa794, 1, 1, 0x30⟩, ⟨0xa797, 0xa, 2, -0x1⟩, ⟨0xa7b5, 8, 2, -0x1⟩,
  ⟨0xa7c8, 2, 2, -0x1⟩, ⟨0xa7cd, 8, 2, -0x1⟩, ⟨0xa7f6, 1, 1, -0x1⟩, ⟨0xab53, 1, 1, -0x3a0⟩,
  ⟨0xab70, 0x50, 1, -0x97d0⟩, ⟨0xff41, 0x1a, 1, -0x20⟩, ⟨0x10428, 0x28, 1, -0x28⟩,
  ⟨0x104d8, 0x24, 1, -0x28⟩, ⟨0x10597, 0xb, 1, -0x27⟩, ⟨0x105a3, 0xf, 1, -0x27⟩,
  ⟨0x105b3, 7, 1, -0x27⟩, ⟨0x105bb, 2, 1, -0x27⟩, ⟨0x10cc0, 0x33, 1, -0x40⟩,
  ⟨0x10d70, 0x16, 1, -0x20⟩, ⟨0x118c0, 0x20, 1, -0x20⟩, ⟨0x16e60, 0x20, 1, -0x20⟩,
  ⟨0x16ebb, 0x19, 1, -0x1b⟩, ⟨0x1e922, 0x22, 1, -0x22⟩]

def foldRuns : List CaseRun := [
  ⟨0xb5, 1, 1, 0x307⟩, ⟨0xc0, 0x17, 1, 0x20⟩, ⟨0xd8, 7, 1, 0x20⟩, ⟨0x100, 0x18, 2, 0x1⟩,
  ⟨0x132, 3, 2, 0x1⟩, ⟨0x139, 8, 2, 0x1⟩, ⟨0x14a, 0x17, 2, 0x1⟩, ⟨0x178, 1, 1, -0x79⟩,
  ⟨0x179, 3, 2, 0x1⟩, ⟨0x17f, 1, 1, -0x10c⟩, ⟨0x181, 1, 1, 0xd2⟩, ⟨0x182, 2, 2, 0x1⟩,
  ⟨0x186, 1, 1, 0xce⟩, ⟨0x187, 1, 1, 0x1⟩, ⟨0x189, 2, 1, 0xcd⟩, ⟨0x18b, 1, 1, 0x1⟩,
  ⟨0x18e, 1, 1, 0x4f⟩, ⟨0x18f, 1, 1, 0xca⟩, ⟨0x190, 1, 1, 0xcb⟩, ⟨0x191, 1, 1, 0x1⟩,
  ⟨0x193, 1, 1, 0xcd⟩, ⟨0x194, 1, 1, 0xcf⟩, ⟨0x196, 1, 1, 0xd3⟩, ⟨0x197, 1, 1, 0xd1⟩,
  ⟨0x198, 1, 1, 0x1⟩, ⟨0x19c, 1, 1, 0xd3⟩, ⟨0x19d, 1, 1, 0xd5⟩, ⟨0x19f, 1, 1, 0xd6⟩,
  ⟨0x1a0, 3, 2, 0x1⟩, ⟨0x1a6, 1, 1, 0xda⟩, ⟨0x1a7, 1, 1, 0x1⟩, ⟨0x1a9, 1, 1, 0xda⟩,
  ⟨0x1ac, 1, 1, 0x1⟩, ⟨0x1ae, 1, 1, 0xda⟩, ⟨0x1af, 1, 1, 0x1⟩, ⟨0x1b1, 2, 1, 0xd9⟩,
  ⟨0x1b3, 2, 2, 0x1⟩, ⟨0x1b7, 1, 1, 0xdb⟩, ⟨0x1b8, 1, 1, 0x1⟩, ⟨0x1bc, 1, 1, 0x1⟩,
  ⟨0x1c4, 1, 1, 0x2⟩, ⟨0x1c5, 1, 1, 0x1⟩, ⟨0x1c7, 1, 1, 0x2⟩, ⟨0x1c8, 1, 1, 0x1⟩,
  ⟨0x1ca, 1, 1, 0x2⟩, ⟨0x1cb, 9, 2, 0x1⟩, ⟨0x1de, 9, 2, 0x1⟩, ⟨0x1f1, 1, 1, 0x2⟩,
  ⟨0x1f2, 2, 2, 0x1⟩, ⟨0x1f6, 1, 1, -0x61⟩, ⟨0x1f7, 1, 1, -0x38⟩, ⟨0x1f8, 0x14, 2, 0x1⟩,
  ⟨0x220, 1, 1, -0x82⟩, ⟨0x222, 9, 2, 0x1⟩, ⟨0x23a, 1, 1, 0x2a2b⟩, ⟨0x23b, 1, 1, 0x1⟩,
  ⟨0x23d, 1, 1, -0xa3⟩, ⟨0x23e, 1, 1, 0x2a28⟩, ⟨0x241, 1, 1, 0x1⟩, ⟨0x243, 1, 1, -0xc3⟩,
  ⟨0x244, 1, 1, 0x45⟩, ⟨0x245, 1, 1, 0x47⟩, ⟨0x246, 5, 2, 0x1⟩, ⟨0x345, 1, 1, 0x74⟩,
  ⟨0x370, 2, 2, 0x1⟩, ⟨0x376, 1, 1, 0x1⟩, ⟨0x37f, 1, 1, 0x74⟩, ⟨0x386, 1, 1, 0x26⟩,
  ⟨0x388, 3, 1, 0x25⟩, ⟨0x38c, 1, 1, 0x40⟩, ⟨0x38e, 2, 1, 0x3f⟩, ⟨0x391, 0x11, 1, 0x20⟩,
  ⟨0x3a3, 9, 1, 0x20⟩, ⟨0x3c2, 1, 1, 0x1⟩, ⟨0x3cf, 1, 1, 0x8⟩, ⟨0x3d0, 1, 1, -0x1e⟩,
  ⟨0x3d1, 1, 1, -0x19⟩, ⟨0x3d5, 1, 1, -0xf⟩, ⟨0x3d6, 1, 1, -0x16⟩, ⟨0x3d8, 0xc, 2, 0x1⟩,
  ⟨0x3f0, 1, 1, -0x36⟩, ⟨0x3f1, 1, 1, -0x30⟩, ⟨0x3f4, 1, 1, -0x3c⟩, ⟨0x3f5, 1, 1, -0x40⟩,
  ⟨0x3f7, 1, 1, 0x1⟩, ⟨0x3f9, 1, 1, -0x7⟩, ⟨0x3fa, 1, 1, 0x1⟩, ⟨0x3fd, 3, 1, -0x82⟩,
  ⟨0x400, 0x10, 1, 0x50⟩, ⟨0x410, 0x20, 1, 0x20⟩, ⟨0x460, 0x11, 2, 0x1⟩, ⟨0x48a, 0x1b, 2, 0x1⟩,
  ⟨0x4c0, 1, 1, 0xf⟩, ⟨0x4c1, 7, 2, 0x1⟩, ⟨0x4d0, 0x30, 2, 0x1⟩, ⟨0x531, 0x26, 1, 0x30⟩,
  ⟨0x10a0, 0x26, 1, 0x1c60⟩, ⟨0x10c7, 1, 1, 0x1c60⟩, ⟨0x10cd, 1, 1, 0x1c60⟩, ⟨0x13f8, 6, 1, -0x8⟩,
  ⟨0x1c80, 1, 1, -0x184e⟩, ⟨0x1c81, 1, 1, -0x184d⟩, ⟨0x1c82, 1, 1, -0x1844⟩,
  ⟨0x1c83, 2, 1, -0x1842⟩, ⟨0x1c85, 1, 1, -0x1843⟩, ⟨0x1c86, 1, 1, -0x183c⟩,
  ⟨0x1c87, 1, 1, -0x1824⟩, ⟨0x1c88, 1, 1, 0x89c3⟩, ⟨0x1c90, 0x2b, 1, -0xbc0⟩,
  ⟨0x1cbd, 3, 1, -0xbc0⟩, ⟨0x1e00, 0x4b, 2, 0x1⟩, ⟨0x1e9b, 1, 1, -0x3a⟩, ⟨0x1e9e, 1, 1, -0x1dbf⟩,
  ⟨0x1ea0, 0x30, 2, 0x1⟩, ⟨0x1f08, 8, 1, -0x8⟩, ⟨0x1f18, 6, 1, -0x8⟩, ⟨0x1f28, 8, 1, -0x8⟩,
  ⟨0x1f38, 8, 1, -0x8⟩, ⟨0x1f48, 6, 1, -0x8⟩, ⟨0x1f59, 4, 2, -0x8⟩, ⟨0x1f68, 8, 1, -0x8⟩,
  ⟨0x1f88, 8, 1, -0x8⟩, ⟨0x1f98, 8, 1, -0x8⟩, ⟨0x1fa8, 8, 1, -0x8⟩, ⟨0x1fb8, 2, 1, -0x8⟩,
  ⟨0x1fba, 2, 1, -0x4a⟩, ⟨0x1fbc, 1, 1, -0x9⟩, ⟨0x1fbe, 1, 1, -0x1c05⟩, ⟨0x1fc8, 4, 1, -0x56⟩,
  ⟨0x1fcc, 1, 1, -0x9⟩, ⟨0x1fd8, 2, 1, -0x8⟩, ⟨0x1fda, 2, 1, -0x64⟩, ⟨0x1fe8, 2, 1, -0x8⟩,
  ⟨0x1fea, 2, 1, -0x70⟩, ⟨0x1fec, 1, 1, -0x7⟩, ⟨0x1ff8, 2, 1, -0x80⟩, ⟨0x1ffa, 2, 1, -0x7e⟩,
  ⟨0x1ffc, 1, 1, -0x9⟩, ⟨0x2126, 1, 1, -0x1d5d⟩, ⟨0x212a, 1, 1, -0x20bf⟩, ⟨0x212b, 1, 1, -0x2046⟩,
  ⟨0x2132, 1, 1, 0x1c⟩, ⟨0x2160, 0x10, 1, 0x10⟩, ⟨0x2183, 1, 1, 0x1⟩, ⟨0x24b6, 0x1a, 1, 0x1a⟩,
  ⟨0x2c00, 0x30, 1, 0x30⟩, ⟨0x2c60, 1, 1, 0x1⟩, ⟨0x2c62, 1, 1, -0x29f7⟩, ⟨0x2c63, 1, 1, -0xee6⟩,
  ⟨0x2c64, 1, 1, -0x29e7⟩, ⟨0x2c67, 3, 2, 0x1⟩, ⟨0x2c6d, 1, 1, -0x2a1c⟩, ⟨0x2c6e, 1, 1, -0x29fd⟩,
  ⟨0x2c6f, 1, 1, -0x2a1f⟩, ⟨0x2c70, 1, 1, -0x2a1e⟩, ⟨0x2c72, 1, 1, 0x1⟩, ⟨0x2c75, 1, 1, 0x1⟩,
  ⟨0x2c7e, 2, 1, -0x2a3f⟩, ⟨0x2c80, 0x32, 2, 0x1⟩, ⟨0x2ceb, 2, 2, 0x1⟩, ⟨0x2cf2, 1, 1, 0x1⟩,
  ⟨0xa640, 0x17, 2, 0x1⟩, ⟨0xa680, 0xe, 2, 0x1⟩, ⟨0xa722, 7, 2, 0x1⟩, ⟨0xa732, 0x1f, 2, 0x1⟩,
  ⟨0xa779, 2, 2, 0x1⟩, ⟨0xa77d, 1, 1, -0x8a04⟩, ⟨0xa77e, 5, 2, 0x1⟩, ⟨0xa78b, 1, 1, 0x1⟩,
  ⟨0xa78d, 1, 1, -0xa528⟩, ⟨0xa790, 2, 2, 0x1⟩, ⟨0xa796, 0xa, 2, 0x1⟩, ⟨0xa7aa, 1, 1, -0xa544⟩,
  ⟨0xa7ab, 1, 1, -0xa54f⟩, ⟨0xa7ac, 1, 1, -0xa54b⟩, ⟨0xa7ad, 1, 1, -0xa541⟩,
  ⟨0xa7ae, 1, 1, -0xa544⟩, ⟨0xa7b0, 1, 1, -0xa512⟩, ⟨0xa7b1, 1, 1, -0xa52a⟩,
  ⟨0xa7b2, 1, 1, -0xa515⟩, ⟨0xa7b3, 1, 1, 0x3a0⟩, ⟨0xa7b4, 8, 2, 0x1⟩, ⟨0xa7c4, 1, 1, -0x30⟩,
  ⟨0xa7c5, 1, 1, -0xa543⟩, ⟨0xa7c6, 1, 1, -0x8a38⟩, ⟨0xa7c7, 2, 2, 0x1⟩, ⟨0xa7d0, 1, 1, 0x1⟩,
  ⟨0xa7d6, 2, 2, 0x1⟩, ⟨0xa7f5, 1, 1, 0x1⟩, ⟨0xab70, 0x50, 1, -0x97d0⟩, ⟨0xff21, 0x1a, 1, 0x20⟩,
  ⟨0x10400, 0x28, 1, 0x28⟩, ⟨0x104b0, 0x24, 1, 0x28⟩, ⟨0x10570, 0xb, 1, 0x27⟩,
  ⟨0x1057c, 0xf, 1, 0x27⟩, ⟨0x1058c, 7, 1, 0x27⟩, ⟨0x10594, 2, 1, 0x27⟩, ⟨0x10c80, 0x33, 1, 0x40⟩,
  ⟨0x118a0, 0x20, 1, 0x20⟩, ⟨0x16e40, 0x20, 1, 0x20⟩, ⟨0x1e900, 0x22, 1, 0x22⟩]

def lowerLong : List (Nat × List Nat) := [
  (0x130, [0x69, 0x307])]

def upperLong : List (Nat × List Nat) := [
  (0xdf, [0x53, 0x53]), (0x149, [0x2bc, 0x4e]), (0x1f0, [0x4a, 0x30c]), (0x390, [0x399, 0x308, 0x301]),
  (0x3b0, [0x3a5, 0x308, 0x301]), (0x587, [0x535, 0x552]), (0x1e96, [0x48, 0x331]), (0x1e97, [0x54, 0x308]),
  (0x1e98, [0x57, 0x30a]), (0x1e99, [0x59, 0x30a]), (0x1e9a, [0x41, 0x2be]), (0x1f50, [0x3a5, 0x313]),
  (0x1f52, [0x3a5, 0x313, 0x300]), (0x1f54, [0x3a5, 0x313, 0x301]), (0x1f56, [0x3a5, 0x313, 0x342]), (0x1f80, [0x1f08, 0x399]),
  (0x1f81, [0x1f09, 0x399]), (0x1f82, [0x1f0a, 0x399]), (0x1f83, [0x1f0b, 0x399]), (0x1f84, [0x1f0c, 0x399]),
  (0x1f85, [0x1f0d, 0x399]), (0x1f86, [0x1f0e, 0x399]), (0x1f87, [0x1f0f, 0x399]), (0x1f88, [0x1f08, 0x399]),
  (0x1f89, [0x1f09, 0x399]), (0x1f8a, [0x1f0a, 0x399]), (0x1f8b, [0x1f0b, 0x399]), (0x1f8c, [0x1f0c, 0x399]),
  (0x1f8d, [0x1f0d, 0x399]), (0x1f8e, [0x1f0e, 0x399]), (0x1f8f, [0x1f0f, 0x399]), (0x1f90, [0x1f28, 0x399]),
  (0x1f91, [0x1f29, 0x399]), (0x1f92, [0x1f2a, 0x399]), (0x1f93, [0x1f2b, 0x399]), (0x1f94, [0x1f2c, 0x399]),
  (0x1f95, [0x1f2d, 0x399]), (0x1f96, [0x1f2e, 0x399]), (0x1f97, [0x1f2f, 0x399]), (0x1f98, [0x1f28, 0x399]),
  (0x1f99, [0x1f29, 0x399]), (0x1f9a, [0x1f2a, 0x399]), (0x1f9b, [0x1f2b, 0x399]), (0x1f9c, [0x1f2c, 0x399]),
  (0x1f9d, [0x1f2d, 0x399]), (0x1f9e, [0x1f2e, 0x399]), (0x1f9f, [0x1f2f, 0x399]), (0x1fa0, [0x1f68, 0x399]),
  (0x1fa1, [0x1f69, 0x399]), (0x1fa2, [0x1f6a, 0x399]), (0x1fa3, [0x1f6b, 0x399]), (0x1fa4, [0x1f6c, 0x399]),
  (0x1fa5, [0x1f6d, 0x399]), (0x1fa6, [0x1f6e, 0x399]), (0x1fa7, [0x1f6f, 0x399]), (0x1fa8, [0x1f68, 0x399]),
  (0x1fa9, [0x1f69, 0x399]), (0x1faa, [0x1f6a, 0x399]), (0x1fab, [0x1f6b, 0x399]), (0x1fac, [0x1f6c, 0x399]),
  (0x1fad, [0x1f6d, 0x399]), (0x1fae, [0x1f6e, 0x399]), (0x1faf, [0x1f6f, 0x399]), (0x1fb2, [0x1fba, 0x399]),
  (0x1fb3, [0x391, 0x399]), (0x1fb4, [0x386, 0x399]), (0x1fb6, [0x391, 0x342]), (0x1fb7, [0x391, 0x342, 0x399]),
  (0x1fbc, [0x391, 0x399]), (0x1fc2, [0x1fca, 0x399]), (0x1fc3, [0x397, 0x399]), (0x1fc4, [0x389, 0x399]),
  (0x1fc6, [0x397, 0x342]), (0x1fc7, [0x397, 0x342, 0x399]), (0x1fcc, [0x397, 0x399]), (0x1fd2, [0x399, 0x308, 0x300]),
  (0x1fd3, [0x399, 0x308, 0x301]), (0x1fd6, [0x399, 0x342]), (0x1fd7, [0x399, 0x308, 0x342]), (0x1fe2, [0x3a5, 0x308, 0x300]),
  (0x1fe3, [0x3a5, 0x308, 0x301]), (0x1fe4, [0x3a1, 0x313]), (0x1fe6, [0x3a5, 0x342]), (0x1fe7, [0x3a5, 0x308, 0x342]),
  (0x1ff2, [0x1ffa, 0x399]), (0x1ff3, [0x3a9, 0x399]), (0x1ff4, [0x38f, 0x399]), (0x1ff6, [0x3a9, 0x342]),
  (0x1ff7, [0x3a9, 0x342, 0x399]), (0x1ffc, [0x3a9, 0x399]), (0xfb00, [0x46, 0x46]), (0xfb01, [0x46, 0x49]),
  (0xfb02, [0x46, 0x4c]), (0xfb03, [0x46, 0x46, 0x49]), (0xfb04, [0x46, 0x46, 0x4c]), (0xfb05, [0x53, 0x54]),
  (0xfb06, [0x53, 0x54]), (0xfb13, [0x544, 0x546]), (0xfb14, [0x544, 0x535]), (0xfb15, [0x544, 0x53b]),
  (0xfb16, [0x54e, 0x546]), (0xfb17, [0x544, 0x53d])]

end Gleaner.Text
