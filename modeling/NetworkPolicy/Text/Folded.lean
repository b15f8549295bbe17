namespace NetworkPolicy.Text

/-- Characters beyond ASCII that folding replaces: first and last code point of each run, and the
distance from one to the next (Unicode 17). -/
def foldedRuns : List (Nat × Nat × Nat) := [
  (0xa0, 0xa0, 1), (0xa8, 0xaa, 2), (0xaf, 0xaf, 1), (0xb2, 0xb5, 1), (0xb8, 0xba, 1),
  (0xbc, 0xbe, 1), (0xc0, 0xd6, 1), (0xd8, 0xde, 1), (0x100, 0x132, 2), (0x133, 0x134, 1),
  (0x136, 0x136, 1), (0x139, 0x13f, 2), (0x140, 0x141, 1), (0x143, 0x149, 2), (0x14a, 0x178, 2),
  (0x179, 0x181, 2), (0x182, 0x186, 2), (0x187, 0x189, 2), (0x18a, 0x18b, 1), (0x18e, 0x191, 1),
  (0x193, 0x194, 1), (0x196, 0x198, 1), (0x19c, 0x19d, 1), (0x19f, 0x1a0, 1), (0x1a2, 0x1a6, 2),
  (0x1a7, 0x1a9, 2), (0x1ac, 0x1ae, 2), (0x1af, 0x1b1, 2), (0x1b2, 0x1b3, 1), (0x1b5, 0x1b7, 2),
  (0x1b8, 0x1b8, 1), (0x1bc, 0x1bc, 1), (0x1c4, 0x1cd, 1), (0x1cf, 0x1db, 2), (0x1de, 0x1ee, 2),
  (0x1f1, 0x1f4, 1), (0x1f6, 0x1f8, 1), (0x1fa, 0x232, 2), (0x23a, 0x23b, 1), (0x23d, 0x23e, 1),
  (0x241, 0x243, 2), (0x244, 0x246, 1), (0x248, 0x24e, 2), (0x2b0, 0x2b8, 1), (0x2d8, 0x2dd, 1),
  (0x2e0, 0x2e4, 1), (0x340, 0x341, 1), (0x343, 0x345, 1), (0x370, 0x376, 2), (0x37a, 0x37a, 1),
  (0x37e, 0x37f, 1), (0x384, 0x38a, 1), (0x38c, 0x38e, 2), (0x38f, 0x391, 2), (0x392, 0x3a1, 1),
  (0x3a3, 0x3ab, 1), (0x3cf, 0x3d6, 1), (0x3d8, 0x3f0, 2), (0x3f1, 0x3f2, 1), (0x3f4, 0x3f5, 1),
  (0x3f7, 0x3f9, 2), (0x3fa, 0x3fa, 1), (0x3fd, 0x42f, 1), (0x460, 0x480, 2), (0x48a, 0x4c0, 2),
  (0x4c1, 0x4cd, 2), (0x4d0, 0x52e, 2), (0x531, 0x556, 1), (0x587, 0x587, 1), (0x675, 0x678, 1),
  (0x958, 0x95f, 1), (0x9dc, 0x9dd, 1), (0x9df, 0x9df, 1), (0xa33, 0xa33, 1), (0xa36, 0xa36, 1),
  (0xa59, 0xa5b, 1), (0xa5e, 0xa5e, 1), (0xb5c, 0xb5d, 1), (0xe33, 0xe33, 1), (0xeb3, 0xeb3, 1),
  (0xedc, 0xedd, 1), (0xf0c, 0xf0c, 1), (0xf43, 0xf43, 1), (0xf4d, 0xf4d, 1), (0xf52, 0xf52, 1),
  (0xf57, 0xf57, 1), (0xf5c, 0xf5c, 1), (0xf69, 0xf69, 1), (0xf73, 0xf75, 2), (0xf76, 0xf79, 1),
  (0xf81, 0xf81, 1), (0xf93, 0xf93, 1), (0xf9d, 0xf9d, 1), (0xfa2, 0xfa2, 1), (0xfa7, 0xfa7, 1),
  (0xfac, 0xfac, 1), (0xfb9, 0xfb9, 1), (0x10a0, 0x10c5, 1), (0x10c7, 0x10c7, 1),
  (0x10cd, 0x10cd, 1), (0x10fc, 0x10fc, 1), (0x13f8, 0x13fd, 1), (0x1c80, 0x1c89, 1),
  (0x1c90, 0x1cba, 1), (0x1cbd, 0x1cbf, 1), (0x1d2c, 0x1d2e, 1), (0x1d30, 0x1d3a, 1),
  (0x1d3c, 0x1d4d, 1), (0x1d4f, 0x1d6a, 1), (0x1d78, 0x1d78, 1), (0x1d9b, 0x1dbf, 1),
  (0x1e00, 0x1e94, 2), (0x1e9a, 0x1e9b, 1), (0x1e9e, 0x1efe, 2), (0x1f08, 0x1f0f, 1),
  (0x1f18, 0x1f1d, 1), (0x1f28, 0x1f2f, 1), (0x1f38, 0x1f3f, 1), (0x1f48, 0x1f4d, 1),
  (0x1f59, 0x1f5f, 2), (0x1f68, 0x1f6f, 1), (0x1f71, 0x1f7d, 2), (0x1f80, 0x1faf, 1),
  (0x1fb2, 0x1fb4, 1), (0x1fb7, 0x1fc4, 1), (0x1fc7, 0x1fcf, 1), (0x1fd3, 0x1fd3, 1),
  (0x1fd8, 0x1fdb, 1), (0x1fdd, 0x1fdf, 1), (0x1fe3, 0x1fe3, 1), (0x1fe8, 0x1fef, 1),
  (0x1ff2, 0x1ff4, 1), (0x1ff7, 0x1ffe, 1), (0x2000, 0x200a, 1), (0x2011, 0x2011, 1),
  (0x2017, 0x2017, 1), (0x202f, 0x202f, 1), (0x2033, 0x2034, 1), (0x2036, 0x2037, 1),
  (0x203c, 0x203e, 2), (0x2047, 0x2049, 1), (0x2057, 0x2057, 1), (0x205f, 0x205f, 1),
  (0x2070, 0x2071, 1), (0x2074, 0x208e, 1), (0x2090, 0x209c, 1), (0x20a8, 0x20a8, 1),
  (0x2100, 0x2103, 1), (0x2105, 0x2107, 1), (0x2109, 0x2113, 1), (0x2115, 0x2116, 1),
  (0x2119, 0x211d, 1), (0x2120, 0x2122, 1), (0x2124, 0x212a, 2), (0x212b, 0x212d, 1),
  (0x212f, 0x2139, 1), (0x213b, 0x2140, 1), (0x2145, 0x2149, 1), (0x2150, 0x217f, 1),
  (0x2183, 0x2183, 1), (0x2189, 0x2189, 1), (0x222c, 0x222d, 1), (0x222f, 0x2230, 1),
  (0x2329, 0x232a, 1), (0x2460, 0x2487, 1), (0x249c, 0x24ea, 1), (0x2a0c, 0x2a0c, 1),
  (0x2a74, 0x2a76, 1), (0x2adc, 0x2adc, 1), (0x2c00, 0x2c2f, 1), (0x2c60, 0x2c62, 2),
  (0x2c63, 0x2c64, 1), (0x2c67, 0x2c6d, 2), (0x2c6e, 0x2c70, 1), (0x2c72, 0x2c72, 1),
  (0x2c75, 0x2c75, 1), (0x2c7c, 0x2c80, 1), (0x2c82, 0x2ce2, 2), (0x2ceb, 0x2ced, 2),
  (0x2cf2, 0x2cf2, 1), (0x2d6f, 0x2d6f, 1), (0x2e9f, 0x2e9f, 1), (0x2ef3, 0x2ef3, 1),
  (0x2f00, 0x2fd5, 1), (0x3000, 0x3002, 2), (0x3036, 0x3038, 2), (0x3039, 0x303a, 1),
  (0x309b, 0x309c, 1), (0x309f, 0x309f, 1), (0x30ff, 0x30ff, 1), (0x3131, 0x3163, 1),
  (0x3165, 0x318e, 1), (0x3192, 0x319f, 1), (0x3200, 0x321e, 1), (0x3220, 0x3247, 1),
  (0x3250, 0x327e, 1), (0x3280, 0x33c1, 1), (0x33c3, 0x33c6, 1), (0x33c8, 0x33d7, 1),
  (0x33d9, 0x33ff, 1), (0xa640, 0xa66c, 2), (0xa680, 0xa69c, 2), (0xa69d, 0xa69d, 1),
  (0xa722, 0xa72e, 2), (0xa732, 0xa770, 2), (0xa779, 0xa77d, 2), (0xa77e, 0xa786, 2),
  (0xa78b, 0xa78d, 2), (0xa790, 0xa792, 2), (0xa796, 0xa7aa, 2), (0xa7ab, 0xa7ae, 1),
  (0xa7b0, 0xa7b4, 1), (0xa7b6, 0xa7c4, 2), (0xa7c5, 0xa7c7, 1), (0xa7c9, 0xa7cb, 2),
  (0xa7cc, 0xa7dc, 2), (0xa7f1, 0xa7f5, 1), (0xa7f8, 0xa7f9, 1), (0xab5c, 0xab5f, 1),
  (0xab69, 0xab69, 1), (0xab70, 0xabbf, 1), (0xf900, 0xfa0d, 1), (0xfa10, 0xfa12, 2),
  (0xfa15, 0xfa1e, 1), (0xfa20, 0xfa22, 2), (0xfa25, 0xfa26, 1), (0xfa2a, 0xfa6d, 1),
  (0xfa70, 0xfad9, 1), (0xfb00, 0xfb06, 1), (0xfb13, 0xfb17, 1), (0xfb1d, 0xfb1f, 2),
  (0xfb20, 0xfb36, 1), (0xfb38, 0xfb3c, 1), (0xfb3e, 0xfb40, 2), (0xfb41, 0xfb43, 2),
  (0xfb44, 0xfb46, 2), (0xfb47, 0xfbb1, 1), (0xfbd3, 0xfd3d, 1), (0xfd50, 0xfd8f, 1),
  (0xfd92, 0xfdc7, 1), (0xfdf0, 0xfdfc, 1), (0xfe10, 0xfe11, 1), (0xfe13, 0xfe18, 1),
  (0xfe31, 0xfe44, 1), (0xfe47, 0xfe51, 1), (0xfe54, 0xfe66, 1), (0xfe68, 0xfe6b, 1),
  (0xfe70, 0xfe72, 1), (0xfe74, 0xfe76, 2), (0xfe77, 0xfefc, 1), (0xff01, 0xff9f, 1),
  (0xffa1, 0xffbe, 1), (0xffc2, 0xffc7, 1), (0xffca, 0xffcf, 1), (0xffd2, 0xffd7, 1),
  (0xffda, 0xffdc, 1), (0xffe0, 0xffe6, 1), (0xffe8, 0xffee, 1), (0x10400, 0x10427, 1),
  (0x104b0, 0x104d3, 1), (0x10570, 0x1057a, 1), (0x1057c, 0x1058a, 1), (0x1058c, 0x10592, 1),
  (0x10594, 0x10595, 1), (0x10781, 0x10785, 1), (0x10787, 0x107b0, 1), (0x107b2, 0x107ba, 1),
  (0x10c80, 0x10cb2, 1), (0x10d50, 0x10d65, 1), (0x118a0, 0x118bf, 1), (0x16e40, 0x16e5f, 1),
  (0x16ea0, 0x16eb8, 1), (0x1ccd6, 0x1ccf9, 1), (0x1d15e, 0x1d164, 1), (0x1d1bb, 0x1d1c0, 1),
  (0x1d400, 0x1d454, 1), (0x1d456, 0x1d49c, 1), (0x1d49e, 0x1d49f, 1), (0x1d4a2, 0x1d4a2, 1),
  (0x1d4a5, 0x1d4a6, 1), (0x1d4a9, 0x1d4ac, 1), (0x1d4ae, 0x1d4b9, 1), (0x1d4bb, 0x1d4bd, 2),
  (0x1d4be, 0x1d4c3, 1), (0x1d4c5, 0x1d505, 1), (0x1d507, 0x1d50a, 1), (0x1d50d, 0x1d514, 1),
  (0x1d516, 0x1d51c, 1), (0x1d51e, 0x1d539, 1), (0x1d53b, 0x1d53e, 1), (0x1d540, 0x1d544, 1),
  (0x1d546, 0x1d546, 1), (0x1d54a, 0x1d550, 1), (0x1d552, 0x1d6a5, 1), (0x1d6a8, 0x1d7cb, 1),
  (0x1d7ce, 0x1d7ff, 1), (0x1e030, 0x1e06d, 1), (0x1e900, 0x1e921, 1), (0x1ee00, 0x1ee03, 1),
  (0x1ee05, 0x1ee1f, 1), (0x1ee21, 0x1ee22, 1), (0x1ee24, 0x1ee24, 1), (0x1ee27, 0x1ee29, 2),
  (0x1ee2a, 0x1ee32, 1), (0x1ee34, 0x1ee37, 1), (0x1ee39, 0x1ee3b, 2), (0x1ee42, 0x1ee42, 1),
  (0x1ee47, 0x1ee4d, 2), (0x1ee4e, 0x1ee4f, 1), (0x1ee51, 0x1ee52, 1), (0x1ee54, 0x1ee54, 1),
  (0x1ee57, 0x1ee61, 2), (0x1ee62, 0x1ee64, 2), (0x1ee67, 0x1ee6a, 1), (0x1ee6c, 0x1ee72, 1),
  (0x1ee74, 0x1ee77, 1), (0x1ee79, 0x1ee7c, 1), (0x1ee7e, 0x1ee80, 2), (0x1ee81, 0x1ee89, 1),
  (0x1ee8b, 0x1ee9b, 1), (0x1eea1, 0x1eea3, 1), (0x1eea5, 0x1eea9, 1), (0x1eeab, 0x1eebb, 1),
  (0x1f101, 0x1f10a, 1), (0x1f110, 0x1f12e, 1), (0x1f130, 0x1f14f, 1), (0x1f16a, 0x1f16c, 1),
  (0x1f190, 0x1f190, 1), (0x1f200, 0x1f202, 1), (0x1f210, 0x1f23b, 1), (0x1f240, 0x1f248, 1),
  (0x1f250, 0x1f251, 1), (0x1fbf0, 0x1fbf9, 1), (0x2f800, 0x2fa1d, 1)]

def isFolded (c : Char) : Bool :=
  foldedRuns.any fun (first, last, step) =>
    first ≤ c.toNat && c.toNat ≤ last && (c.toNat - first) % step = 0

end NetworkPolicy.Text
