import StreamDispatch.Text.Printing

/-!
# Normal form C

Canonical composition of Unicode text (Unicode Standard Annex #15). Every character is replaced
by its full canonical decomposition, a Hangul syllable by its jamo; each run of combining
characters is put in order of canonical combining class, characters of one class keeping their
order; then, from left to right, a character joins the last starter before it when the two form
a primary composite and nothing between them blocks it (a character of the same or a higher
class, or a starter other than the character right after it).

The tables come from the Unicode Character Database: the full canonical decompositions and the
primary composites of Unicode 17.0, and the canonical combining classes of Unicode 15.0. Each
is written as words: `c:d_d…` for a decomposition, `a_b:c` for a composite and `lo-hi:k` for a
range of class `k`, all numbers in lower-case hex but the class.
-/

namespace StreamDispatch.Text

/-- The value stored under the key `k` in an array sorted by key, found by halving. -/
def lookupSorted {β : Type} (t : Array (Nat × β)) (k : Nat) : Option β :=
  go 0 t.size
where
  /-- Searches the entries from `lo` to before `hi`. -/
  go (lo hi : Nat) : Option β :=
    if _h : lo < hi then
      match t[(lo + hi) / 2]? with
      | some (key, v) =>
        if key = k then some v
        else if key < k then go ((lo + hi) / 2 + 1) hi
        else go lo ((lo + hi) / 2)
      | none => none
    else none
  termination_by hi - lo

/-- The hex numbers of a word part joined by `_`. -/
def hexList (s : String) : Option (List Nat) := (s.splitOn "_").mapM hexNumber

/-- The words of a table's lines. -/
def tableWords (ls : List String) : List String :=
  ls.flatMap fun l => (l.splitOn " ").filter (!·.isEmpty)

/-- The full canonical decompositions, by code point. -/
def decompositions : Array (Nat × List Nat) :=
  (tableWords lines).toArray.filterMap fun w =>
    match w.splitOn ":" with
    | [c, ds] => do pure (← hexNumber c, ← hexList ds)
    | _ => none
where
  lines : List String :=
    ["c0:41_300 c1:41_301 c2:41_302 c3:41_303 c4:41_308 c5:41_30a c7:43_327 c8:45_300 c9:45_301",
     "ca:45_302 cb:45_308 cc:49_300 cd:49_301 ce:49_302 cf:49_308 d1:4e_303 d2:4f_300 d3:4f_301",
     "d4:4f_302 d5:4f_303 d6:4f_308 d9:55_300 da:55_301 db:55_302 dc:55_308 dd:59_301 e0:61_300",
     "e1:61_301 e2:61_302 e3:61_303 e4:61_308 e5:61_30a e7:63_327 e8:65_300 e9:65_301 ea:65_302",
     "eb:65_308 ec:69_300 ed:69_301 ee:69_302 ef:69_308 f1:6e_303 f2:6f_300 f3:6f_301 f4:6f_302",
     "f5:6f_303 f6:6f_308 f9:75_300 fa:75_301 fb:75_302 fc:75_308 fd:79_301 ff:79_308 100:41_304",
     "101:61_304 102:41_306 103:61_306 104:41_328 105:61_328 106:43_301 107:63_301 108:43_302",
     "109:63_302 10a:43_307 10b:63_307 10c:43_30c 10d:63_30c 10e:44_30c 10f:64_30c 112:45_304",
     "113:65_304 114:45_306 115:65_306 116:45_307 117:65_307 118:45_328 119:65_328 11a:45_30c",
     "11b:65_30c 11c:47_302 11d:67_302 11e:47_306 11f:67_306 120:47_307 121:67_307 122:47_327",
     "123:67_327 124:48_302 125:68_302 128:49_303 129:69_303 12a:49_304 12b:69_304 12c:49_306",
     "12d:69_306 12e:49_328 12f:69_328 130:49_307 134:4a_302 135:6a_302 136:4b_327 137:6b_327",
     "139:4c_301 13a:6c_301 13b:4c_327 13c:6c_327 13d:4c_30c 13e:6c_30c 143:4e_301 144:6e_301",
     "145:4e_327 146:6e_327 147:4e_30c 148:6e_30c 14c:4f_304 14d:6f_304 14e:4f_306 14f:6f_306",
     "150:4f_30b 151:6f_30b 154:52_301 155:72_301 156:52_327 157:72_327 158:52_30c 159:72_30c",
     "15a:53_301 15b:73_301 15c:53_302 15d:73_302 15e:53_327 15f:73_327 160:53_30c 161:73_30c",
     "162:54_327 163:74_327 164:54_30c 165:74_30c 168:55_303 169:75_303 16a:55_304 16b:75_304",
     "16c:55_306 16d:75_306 16e:55_30a 16f:75_30a 170:55_30b 171:75_30b 172:55_328 173:75_328",
     "174:57_302 175:77_302 176:59_302 177:79_302 178:59_308 179:5a_301 17a:7a_301 17b:5a_307",
     "17c:7a_307 17d:5a_30c 17e:7a_30c 1a0:4f_31b 1a1:6f_31b 1af:55_31b 1b0:75_31b 1cd:41_30c",
     "1ce:61_30c 1cf:49_30c 1d0:69_30c 1d1:4f_30c 1d2:6f_30c 1d3:55_30c 1d4:75_30c 1d5:55_308_304",
     "1d6:75_308_304 1d7:55_308_301 1d8:75_308_301 1d9:55_308_30c 1da:75_308_30c 1db:55_308_300",
     "1dc:75_308_300 1de:41_308_304 1df:61_308_304 1e0:41_307_304 1e1:61_307_304 1e2:c6_304",
     "1e3:e6_304 1e6:47_30c 1e7:67_30c 1e8:4b_30c 1e9:6b_30c 1ea:4f_328 1eb:6f_328 1ec:4f_328_304",
     "1ed:6f_328_304 1ee:1b7_30c 1ef:292_30c 1f0:6a_30c 1f4:47_301 1f5:67_301 1f8:4e_300",
     "1f9:6e_300 1fa:41_30a_301 1fb:61_30a_301 1fc:c6_301 1fd:e6_301 1fe:d8_301 1ff:f8_301",
     "200:41_30f 201:61_30f 202:41_311 203:61_311 204:45_30f 205:65_30f 206:45_311 207:65_311",
     "208:49_30f 209:69_30f 20a:49_311 20b:69_311 20c:4f_30f 20d:6f_30f 20e:4f_311 20f:6f_311",
     "210:52_30f 211:72_30f 212:52_311 213:72_311 214:55_30f 215:75_30f 216:55_311 217:75_311",
     "218:53_326 219:73_326 21a:54_326 21b:74_326 21e:48_30c 21f:68_30c 226:41_307 227:61_307",
     "228:45_327 229:65_327 22a:4f_308_304 22b:6f_308_304 22c:4f_303_304 22d:6f_303_304 22e:4f_307",
     "22f:6f_307 230:4f_307_304 231:6f_307_304 232:59_304 233:79_304 340:300 341:301 343:313",
     "344:308_301 374:2b9 37e:3b 385:a8_301 386:391_301 387:b7 388:395_301 389:397_301 38a:399_301",
     "38c:39f_301 38e:3a5_301 38f:3a9_301 390:3b9_308_301 3aa:399_308 3ab:3a5_308 3ac:3b1_301",
     "3ad:3b5_301 3ae:3b7_301 3af:3b9_301 3b0:3c5_308_301 3ca:3b9_308 3cb:3c5_308 3cc:3bf_301",
     "3cd:3c5_301 3ce:3c9_301 3d3:3d2_301 3d4:3d2_308 400:415_300 401:415_308 403:413_301",
     "407:406_308 40c:41a_301 40d:418_300 40e:423_306 419:418_306 439:438_306 450:435_300",
     "451:435_308 453:433_301 457:456_308 45c:43a_301 45d:438_300 45e:443_306 476:474_30f",
     "477:475_30f 4c1:416_306 4c2:436_306 4d0:410_306 4d1:430_306 4d2:410_308 4d3:430_308",
     "4d6:415_306 4d7:435_306 4da:4d8_308 4db:4d9_308 4dc:416_308 4dd:436_308 4de:417_308",
     "4df:437_308 4e2:418_304 4e3:438_304 4e4:418_308 4e5:438_308 4e6:41e_308 4e7:43e_308",
     "4ea:4e8_308 4eb:4e9_308 4ec:42d_308 4ed:44d_308 4ee:423_304 4ef:443_304 4f0:423_308",
     "4f1:443_308 4f2:423_30b 4f3:443_30b 4f4:427_308 4f5:447_308 4f8:42b_308 4f9:44b_308",
     "622:627_653 623:627_654 624:648_654 625:627_655 626:64a_654 6c0:6d5_654 6c2:6c1_654",
     "6d3:6d2_654 929:928_93c 931:930_93c 934:933_93c 958:915_93c 959:916_93c 95a:917_93c",
     "95b:91c_93c 95c:921_93c 95d:922_93c 95e:92b_93c 95f:92f_93c 9cb:9c7_9be 9cc:9c7_9d7",
     "9dc:9a1_9bc 9dd:9a2_9bc 9df:9af_9bc a33:a32_a3c a36:a38_a3c a59:a16_a3c a5a:a17_a3c",
     "a5b:a1c_a3c a5e:a2b_a3c b48:b47_b56 b4b:b47_b3e b4c:b47_b57 b5c:b21_b3c b5d:b22_b3c",
     "b94:b92_bd7 bca:bc6_bbe bcb:bc7_bbe bcc:bc6_bd7 c48:c46_c56 cc0:cbf_cd5 cc7:cc6_cd5",
     "cc8:cc6_cd6 cca:cc6_cc2 ccb:cc6_cc2_cd5 d4a:d46_d3e d4b:d47_d3e d4c:d46_d57 dda:dd9_dca",
     "ddc:dd9_dcf ddd:dd9_dcf_dca dde:dd9_ddf f43:f42_fb7 f4d:f4c_fb7 f52:f51_fb7 f57:f56_fb7",
     "f5c:f5b_fb7 f69:f40_fb5 f73:f71_f72 f75:f71_f74 f76:fb2_f80 f78:fb3_f80 f81:f71_f80",
     "f93:f92_fb7 f9d:f9c_fb7 fa2:fa1_fb7 fa7:fa6_fb7 fac:fab_fb7 fb9:f90_fb5 1026:1025_102e",
     "1b06:1b05_1b35 1b08:1b07_1b35 1b0a:1b09_1b35 1b0c:1b0b_1b35 1b0e:1b0d_1b35 1b12:1b11_1b35",
     "1b3b:1b3a_1b35 1b3d:1b3c_1b35 1b40:1b3e_1b35 1b41:1b3f_1b35 1b43:1b42_1b35 1e00:41_325",
     "1e01:61_325 1e02:42_307 1e03:62_307 1e04:42_323 1e05:62_323 1e06:42_331 1e07:62_331",
     "1e08:43_327_301 1e09:63_327_301 1e0a:44_307 1e0b:64_307 1e0c:44_323 1e0d:64_323 1e0e:44_331",
     "1e0f:64_331 1e10:44_327 1e11:64_327 1e12:44_32d 1e13:64_32d 1e14:45_304_300 1e15:65_304_300",
     "1e16:45_304_301 1e17:65_304_301 1e18:45_32d 1e19:65_32d 1e1a:45_330 1e1b:65_330",
     "1e1c:45_327_306 1e1d:65_327_306 1e1e:46_307 1e1f:66_307 1e20:47_304 1e21:67_304 1e22:48_307",
     "1e23:68_307 1e24:48_323 1e25:68_323 1e26:48_308 1e27:68_308 1e28:48_327 1e29:68_327",
     "1e2a:48_32e 1e2b:68_32e 1e2c:49_330 1e2d:69_330 1e2e:49_308_301 1e2f:69_308_301 1e30:4b_301",
     "1e31:6b_301 1e32:4b_323 1e33:6b_323 1e34:4b_331 1e35:6b_331 1e36:4c_323 1e37:6c_323",
     "1e38:4c_323_304 1e39:6c_323_304 1e3a:4c_331 1e3b:6c_331 1e3c:4c_32d 1e3d:6c_32d 1e3e:4d_301",
     "1e3f:6d_301 1e40:4d_307 1e41:6d_307 1e42:4d_323 1e43:6d_323 1e44:4e_307 1e45:6e_307",
     "1e46:4e_323 1e47:6e_323 1e48:4e_331 1e49:6e_331 1e4a:4e_32d 1e4b:6e_32d 1e4c:4f_303_301",
     "1e4d:6f_303_301 1e4e:4f_303_308 1e4f:6f_303_308 1e50:4f_304_300 1e51:6f_304_300",
     "1e52:4f_304_301 1e53:6f_304_301 1e54:50_301 1e55:70_301 1e56:50_307 1e57:70_307 1e58:52_307",
     "1e59:72_307 1e5a:52_323 1e5b:72_323 1e5c:52_323_304 1e5d:72_323_304 1e5e:52_331 1e5f:72_331",
     "1e60:53_307 1e61:73_307 1e62:53_323 1e63:73_323 1e64:53_301_307 1e65:73_301_307",
     "1e66:53_30c_307 1e67:73_30c_307 1e68:53_323_307 1e69:73_323_307 1e6a:54_307 1e6b:74_307",
     "1e6c:54_323 1e6d:74_323 1e6e:54_331 1e6f:74_331 1e70:54_32d 1e71:74_32d 1e72:55_324",
     "1e73:75_324 1e74:55_330 1e75:75_330 1e76:55_32d 1e77:75_32d 1e78:55_303_301 1e79:75_303_301",
     "1e7a:55_304_308 1e7b:75_304_308 1e7c:56_303 1e7d:76_303 1e7e:56_323 1e7f:76_323 1e80:57_300",
     "1e81:77_300 1e82:57_301 1e83:77_301 1e84:57_308 1e85:77_308 1e86:57_307 1e87:77_307",
     "1e88:57_323 1e89:77_323 1e8a:58_307 1e8b:78_307 1e8c:58_308 1e8d:78_308 1e8e:59_307",
     "1e8f:79_307 1e90:5a_302 1e91:7a_302 1e92:5a_323 1e93:7a_323 1e94:5a_331 1e95:7a_331",
     "1e96:68_331 1e97:74_308 1e98:77_30a 1e99:79_30a 1e9b:17f_307 1ea0:41_323 1ea1:61_323",
     "1ea2:41_309 1ea3:61_309 1ea4:41_302_301 1ea5:61_302_301 1ea6:41_302_300 1ea7:61_302_300",
     "1ea8:41_302_309 1ea9:61_302_309 1eaa:41_302_303 1eab:61_302_303 1eac:41_323_302",
     "1ead:61_323_302 1eae:41_306_301 1eaf:61_306_301 1eb0:41_306_300 1eb1:61_306_300",
     "1eb2:41_306_309 1eb3:61_306_309 1eb4:41_306_303 1eb5:61_306_303 1eb6:41_323_306",
     "1eb7:61_323_306 1eb8:45_323 1eb9:65_323 1eba:45_309 1ebb:65_309 1ebc:45_303 1ebd:65_303",
     "1ebe:45_302_301 1ebf:65_302_301 1ec0:45_302_300 1ec1:65_302_300 1ec2:45_302_309",
     "1ec3:65_302_309 1ec4:45_302_303 1ec5:65_302_303 1ec6:45_323_302 1ec7:65_323_302 1ec8:49_309",
     "1ec9:69_309 1eca:49_323 1ecb:69_323 1ecc:4f_323 1ecd:6f_323 1ece:4f_309 1ecf:6f_309",
     "1ed0:4f_302_301 1ed1:6f_302_301 1ed2:4f_302_300 1ed3:6f_302_300 1ed4:4f_302_309",
     "1ed5:6f_302_309 1ed6:4f_302_303 1ed7:6f_302_303 1ed8:4f_323_302 1ed9:6f_323_302",
     "1eda:4f_31b_301 1edb:6f_31b_301 1edc:4f_31b_300 1edd:6f_31b_300 1ede:4f_31b_309",
     "1edf:6f_31b_309 1ee0:4f_31b_303 1ee1:6f_31b_303 1ee2:4f_31b_323 1ee3:6f_31b_323 1ee4:55_323",
     "1ee5:75_323 1ee6:55_309 1ee7:75_309 1ee8:55_31b_301 1ee9:75_31b_301 1eea:55_31b_300",
     "1eeb:75_31b_300 1eec:55_31b_309 1eed:75_31b_309 1eee:55_31b_303 1eef:75_31b_303",
     "1ef0:55_31b_323 1ef1:75_31b_323 1ef2:59_300 1ef3:79_300 1ef4:59_323 1ef5:79_323 1ef6:59_309",
     "1ef7:79_309 1ef8:59_303 1ef9:79_303 1f00:3b1_313 1f01:3b1_314 1f02:3b1_313_300",
     "1f03:3b1_314_300 1f04:3b1_313_301 1f05:3b1_314_301 1f06:3b1_313_342 1f07:3b1_314_342",
     "1f08:391_313 1f09:391_314 1f0a:391_313_300 1f0b:391_314_300 1f0c:391_313_301",
     "1f0d:391_314_301 1f0e:391_313_342 1f0f:391_314_342 1f10:3b5_313 1f11:3b5_314",
     "1f12:3b5_313_300 1f13:3b5_314_300 1f14:3b5_313_301 1f15:3b5_314_301 1f18:395_313",
     "1f19:395_314 1f1a:395_313_300 1f1b:395_314_300 1f1c:395_313_301 1f1d:395_314_301",
     "1f20:3b7_313 1f21:3b7_314 1f22:3b7_313_300 1f23:3b7_314_300 1f24:3b7_313_301",
     "1f25:3b7_314_301 1f26:3b7_313_342 1f27:3b7_314_342 1f28:397_313 1f29:397_314",
     "1f2a:397_313_300 1f2b:397_314_300 1f2c:397_313_301 1f2d:397_314_301 1f2e:397_313_342",
     "1f2f:397_314_342 1f30:3b9_313 1f31:3b9_314 1f32:3b9_313_300 1f33:3b9_314_300",
     "1f34:3b9_313_301 1f35:3b9_314_301 1f36:3b9_313_342 1f37:3b9_314_342 1f38:399_313",
     "1f39:399_314 1f3a:399_313_300 1f3b:399_314_300 1f3c:399_313_301 1f3d:399_314_301",
     "1f3e:399_313_342 1f3f:399_314_342 1f40:3bf_313 1f41:3bf_314 1f42:3bf_313_300",
     "1f43:3bf_314_300 1f44:3bf_313_301 1f45:3bf_314_301 1f48:39f_313 1f49:39f_314",
     "1f4a:39f_313_300 1f4b:39f_314_300 1f4c:39f_313_301 1f4d:39f_314_301 1f50:3c5_313",
     "1f51:3c5_314 1f52:3c5_313_300 1f53:3c5_314_300 1f54:3c5_313_301 1f55:3c5_314_301",
     "1f56:3c5_313_342 1f57:3c5_314_342 1f59:3a5_314 1f5b:3a5_314_300 1f5d:3a5_314_301",
     "1f5f:3a5_314_342 1f60:3c9_313 1f61:3c9_314 1f62:3c9_313_300 1f63:3c9_314_300",
     "1f64:3c9_313_301 1f65:3c9_314_301 1f66:3c9_313_342 1f67:3c9_314_342 1f68:3a9_313",
     "1f69:3a9_314 1f6a:3a9_313_300 1f6b:3a9_314_300 1f6c:3a9_313_301 1f6d:3a9_314_301",
     "1f6e:3a9_313_342 1f6f:3a9_314_342 1f70:3b1_300 1f71:3b1_301 1f72:3b5_300 1f73:3b5_301",
     "1f74:3b7_300 1f75:3b7_301 1f76:3b9_300 1f77:3b9_301 1f78:3bf_300 1f79:3bf_301 1f7a:3c5_300",
     "1f7b:3c5_301 1f7c:3c9_300 1f7d:3c9_301 1f80:3b1_313_345 1f81:3b1_314_345",
     "1f82:3b1_313_300_345 1f83:3b1_314_300_345 1f84:3b1_313_301_345 1f85:3b1_314_301_345",
     "1f86:3b1_313_342_345 1f87:3b1_314_342_345 1f88:391_313_345 1f89:391_314_345",
     "1f8a:391_313_300_345 1f8b:391_314_300_345 1f8c:391_313_301_345 1f8d:391_314_301_345",
     "1f8e:391_313_342_345 1f8f:391_314_342_345 1f90:3b7_313_345 1f91:3b7_314_345",
     "1f92:3b7_313_300_345 1f93:3b7_314_300_345 1f94:3b7_313_301_345 1f95:3b7_314_301_345",
     "1f96:3b7_313_342_345 1f97:3b7_314_342_345 1f98:397_313_345 1f99:397_314_345",
     "1f9a:397_313_300_345 1f9b:397_314_300_345 1f9c:397_313_301_345 1f9d:397_314_301_345",
     "1f9e:397_313_342_345 1f9f:397_314_342_345 1fa0:3c9_313_345 1fa1:3c9_314_345",
     "1fa2:3c9_313_300_345 1fa3:3c9_314_300_345 1fa4:3c9_313_301_345 1fa5:3c9_314_301_345",
     "1fa6:3c9_313_342_345 1fa7:3c9_314_342_345 1fa8:3a9_313_345 1fa9:3a9_314_345",
     "1faa:3a9_313_300_345 1fab:3a9_314_300_345 1fac:3a9_313_301_345 1fad:3a9_314_301_345",
     "1fae:3a9_313_342_345 1faf:3a9_314_342_345 1fb0:3b1_306 1fb1:3b1_304 1fb2:3b1_300_345",
     "1fb3:3b1_345 1fb4:3b1_301_345 1fb6:3b1_342 1fb7:3b1_342_345 1fb8:391_306 1fb9:391_304",
     "1fba:391_300 1fbb:391_301 1fbc:391_345 1fbe:3b9 1fc1:a8_342 1fc2:3b7_300_345 1fc3:3b7_345",
     "1fc4:3b7_301_345 1fc6:3b7_342 1fc7:3b7_342_345 1fc8:395_300 1fc9:395_301 1fca:397_300",
     "1fcb:397_301 1fcc:397_345 1fcd:1fbf_300 1fce:1fbf_301 1fcf:1fbf_342 1fd0:3b9_306",
     "1fd1:3b9_304 1fd2:3b9_308_300 1fd3:3b9_308_301 1fd6:3b9_342 1fd7:3b9_308_342 1fd8:399_306",
     "1fd9:399_304 1fda:399_300 1fdb:399_301 1fdd:1ffe_300 1fde:1ffe_301 1fdf:1ffe_342",
     "1fe0:3c5_306 1fe1:3c5_304 1fe2:3c5_308_300 1fe3:3c5_308_301 1fe4:3c1_313 1fe5:3c1_314",
     "1fe6:3c5_342 1fe7:3c5_308_342 1fe8:3a5_306 1fe9:3a5_304 1fea:3a5_300 1feb:3a5_301",
     "1fec:3a1_314 1fed:a8_300 1fee:a8_301 1fef:60 1ff2:3c9_300_345 1ff3:3c9_345 1ff4:3c9_301_345",
     "1ff6:3c9_342 1ff7:3c9_342_345 1ff8:39f_300 1ff9:39f_301 1ffa:3a9_300 1ffb:3a9_301",
     "1ffc:3a9_345 1ffd:b4 2000:2002 2001:2003 2126:3a9 212a:4b 212b:41_30a 219a:2190_338",
     "219b:2192_338 21ae:2194_338 21cd:21d0_338 21ce:21d4_338 21cf:21d2_338 2204:2203_338",
     "2209:2208_338 220c:220b_338 2224:2223_338 2226:2225_338 2241:223c_338 2244:2243_338",
     "2247:2245_338 2249:2248_338 2260:3d_338 2262:2261_338 226d:224d_338 226e:3c_338 226f:3e_338",
     "2270:2264_338 2271:2265_338 2274:2272_338 2275:2273_338 2278:2276_338 2279:2277_338",
     "2280:227a_338 2281:227b_338 2284:2282_338 2285:2283_338 2288:2286_338 2289:2287_338",
     "22ac:22a2_338 22ad:22a8_338 22ae:22a9_338 22af:22ab_338 22e0:227c_338 22e1:227d_338",
     "22e2:2291_338 22e3:2292_338 22ea:22b2_338 22eb:22b3_338 22ec:22b4_338 22ed:22b5_338",
     "2329:3008 232a:3009 2adc:2add_338 304c:304b_3099 304e:304d_3099 3050:304f_3099",
     "3052:3051_3099 3054:3053_3099 3056:3055_3099 3058:3057_3099 305a:3059_3099 305c:305b_3099",
     "305e:305d_3099 3060:305f_3099 3062:3061_3099 3065:3064_3099 3067:3066_3099 3069:3068_3099",
     "3070:306f_3099 3071:306f_309a 3073:3072_3099 3074:3072_309a 3076:3075_3099 3077:3075_309a",
     "3079:3078_3099 307a:3078_309a 307c:307b_3099 307d:307b_309a 3094:3046_3099 309e:309d_3099",
     "30ac:30ab_3099 30ae:30ad_3099 30b0:30af_3099 30b2:30b1_3099 30b4:30b3_3099 30b6:30b5_3099",
     "30b8:30b7_3099 30ba:30b9_3099 30bc:30bb_3099 30be:30bd_3099 30c0:30bf_3099 30c2:30c1_3099",
     "30c5:30c4_3099 30c7:30c6_3099 30c9:30c8_3099 30d0:30cf_3099 30d1:30cf_309a 30d3:30d2_3099",
     "30d4:30d2_309a 30d6:30d5_3099 30d7:30d5_309a 30d9:30d8_3099 30da:30d8_309a 30dc:30db_3099",
     "30dd:30db_309a 30f4:30a6_3099 30f7:30ef_3099 30f8:30f0_3099 30f9:30f1_3099 30fa:30f2_3099",
     "30fe:30fd_3099 f900:8c48 f901:66f4 f902:8eca f903:8cc8 f904:6ed1 f905:4e32 f906:53e5",
     "f907:9f9c f908:9f9c f909:5951 f90a:91d1 f90b:5587 f90c:5948 f90d:61f6 f90e:7669 f90f:7f85",
     "f910:863f f911:87ba f912:88f8 f913:908f f914:6a02 f915:6d1b f916:70d9 f917:73de f918:843d",
     "f919:916a f91a:99f1 f91b:4e82 f91c:5375 f91d:6b04 f91e:721b f91f:862d f920:9e1e f921:5d50",
     "f922:6feb f923:85cd f924:8964 f925:62c9 f926:81d8 f927:881f f928:5eca f929:6717 f92a:6d6a",
     "f92b:72fc f92c:90ce f92d:4f86 f92e:51b7 f92f:52de f930:64c4 f931:6ad3 f932:7210 f933:76e7",
     "f934:8001 f935:8606 f936:865c f937:8def f938:9732 f939:9b6f f93a:9dfa f93b:788c f93c:797f",
     "f93d:7da0 f93e:83c9 f93f:9304 f940:9e7f f941:8ad6 f942:58df f943:5f04 f944:7c60 f945:807e",
     "f946:7262 f947:78ca f948:8cc2 f949:96f7 f94a:58d8 f94b:5c62 f94c:6a13 f94d:6dda f94e:6f0f",
     "f94f:7d2f f950:7e37 f951:964b f952:52d2 f953:808b f954:51dc f955:51cc f956:7a1c f957:7dbe",
     "f958:83f1 f959:9675 f95a:8b80 f95b:62cf f95c:6a02 f95d:8afe f95e:4e39 f95f:5be7 f960:6012",
     "f961:7387 f962:7570 f963:5317 f964:78fb f965:4fbf f966:5fa9 f967:4e0d f968:6ccc f969:6578",
     "f96a:7d22 f96b:53c3 f96c:585e f96d:7701 f96e:8449 f96f:8aaa f970:6bba f971:8fb0 f972:6c88",
     "f973:62fe f974:82e5 f975:63a0 f976:7565 f977:4eae f978:5169 f979:51c9 f97a:6881 f97b:7ce7",
     "f97c:826f f97d:8ad2 f97e:91cf f97f:52f5 f980:5442 f981:5973 f982:5eec f983:65c5 f984:6ffe",
     "f985:792a f986:95ad f987:9a6a f988:9e97 f989:9ece f98a:529b f98b:66c6 f98c:6b77 f98d:8f62",
     "f98e:5e74 f98f:6190 f990:6200 f991:649a f992:6f23 f993:7149 f994:7489 f995:79ca f996:7df4",
     "f997:806f f998:8f26 f999:84ee f99a:9023 f99b:934a f99c:5217 f99d:52a3 f99e:54bd f99f:70c8",
     "f9a0:88c2 f9a1:8aaa f9a2:5ec9 f9a3:5ff5 f9a4:637b f9a5:6bae f9a6:7c3e f9a7:7375 f9a8:4ee4",
     "f9a9:56f9 f9aa:5be7 f9ab:5dba f9ac:601c f9ad:73b2 f9ae:7469 f9af:7f9a f9b0:8046 f9b1:9234",
     "f9b2:96f6 f9b3:9748 f9b4:9818 f9b5:4f8b f9b6:79ae f9b7:91b4 f9b8:96b8 f9b9:60e1 f9ba:4e86",
     "f9bb:50da f9bc:5bee f9bd:5c3f f9be:6599 f9bf:6a02 f9c0:71ce f9c1:7642 f9c2:84fc f9c3:907c",
     "f9c4:9f8d f9c5:6688 f9c6:962e f9c7:5289 f9c8:677b f9c9:67f3 f9ca:6d41 f9cb:6e9c f9cc:7409",
     "f9cd:7559 f9ce:786b f9cf:7d10 f9d0:985e f9d1:516d f9d2:622e f9d3:9678 f9d4:502b f9d5:5d19",
     "f9d6:6dea f9d7:8f2a f9d8:5f8b f9d9:6144 f9da:6817 f9db:7387 f9dc:9686 f9dd:5229 f9de:540f",
     "f9df:5c65 f9e0:6613 f9e1:674e f9e2:68a8 f9e3:6ce5 f9e4:7406 f9e5:75e2 f9e6:7f79 f9e7:88cf",
     "f9e8:88e1 f9e9:91cc f9ea:96e2 f9eb:533f f9ec:6eba f9ed:541d f9ee:71d0 f9ef:7498 f9f0:85fa",
     "f9f1:96a3 f9f2:9c57 f9f3:9e9f f9f4:6797 f9f5:6dcb f9f6:81e8 f9f7:7acb f9f8:7b20 f9f9:7c92",
     "f9fa:72c0 f9fb:7099 f9fc:8b58 f9fd:4ec0 f9fe:8336 f9ff:523a fa00:5207 fa01:5ea6 fa02:62d3",
     "fa03:7cd6 fa04:5b85 fa05:6d1e fa06:66b4 fa07:8f3b fa08:884c fa09:964d fa0a:898b fa0b:5ed3",
     "fa0c:5140 fa0d:55c0 fa10:585a fa12:6674 fa15:51de fa16:732a fa17:76ca fa18:793c fa19:795e",
     "fa1a:7965 fa1b:798f fa1c:9756 fa1d:7cbe fa1e:7fbd fa20:8612 fa22:8af8 fa25:9038 fa26:90fd",
     "fa2a:98ef fa2b:98fc fa2c:9928 fa2d:9db4 fa2e:90de fa2f:96b7 fa30:4fae fa31:50e7 fa32:514d",
     "fa33:52c9 fa34:52e4 fa35:5351 fa36:559d fa37:5606 fa38:5668 fa39:5840 fa3a:58a8 fa3b:5c64",
     "fa3c:5c6e fa3d:6094 fa3e:6168 fa3f:618e fa40:61f2 fa41:654f fa42:65e2 fa43:6691 fa44:6885",
     "fa45:6d77 fa46:6e1a fa47:6f22 fa48:716e fa49:722b fa4a:7422 fa4b:7891 fa4c:793e fa4d:7949",
     "fa4e:7948 fa4f:7950 fa50:7956 fa51:795d fa52:798d fa53:798e fa54:7a40 fa55:7a81 fa56:7bc0",
     "fa57:7df4 fa58:7e09 fa59:7e41 fa5a:7f72 fa5b:8005 fa5c:81ed fa5d:8279 fa5e:8279 fa5f:8457",
     "fa60:8910 fa61:8996 fa62:8b01 fa63:8b39 fa64:8cd3 fa65:8d08 fa66:8fb6 fa67:9038 fa68:96e3",
     "fa69:97ff fa6a:983b fa6b:6075 fa6c:242ee fa6d:8218 fa70:4e26 fa71:51b5 fa72:5168 fa73:4f80",
     "fa74:5145 fa75:5180 fa76:52c7 fa77:52fa fa78:559d fa79:5555 fa7a:5599 fa7b:55e2 fa7c:585a",
     "fa7d:58b3 fa7e:5944 fa7f:5954 fa80:5a62 fa81:5b28 fa82:5ed2 fa83:5ed9 fa84:5f69 fa85:5fad",
     "fa86:60d8 fa87:614e fa88:6108 fa89:618e fa8a:6160 fa8b:61f2 fa8c:6234 fa8d:63c4 fa8e:641c",
     "fa8f:6452 fa90:6556 fa91:6674 fa92:6717 fa93:671b fa94:6756 fa95:6b79 fa96:6bba fa97:6d41",
     "fa98:6edb fa99:6ecb fa9a:6f22 fa9b:701e fa9c:716e fa9d:77a7 fa9e:7235 fa9f:72af faa0:732a",
     "faa1:7471 faa2:7506 faa3:753b faa4:761d faa5:761f faa6:76ca faa7:76db faa8:76f4 faa9:774a",
     "faaa:7740 faab:78cc faac:7ab1 faad:7bc0 faae:7c7b faaf:7d5b fab0:7df4 fab1:7f3e fab2:8005",
     "fab3:8352 fab4:83ef fab5:8779 fab6:8941 fab7:8986 fab8:8996 fab9:8abf faba:8af8 fabb:8acb",
     "fabc:8b01 fabd:8afe fabe:8aed fabf:8b39 fac0:8b8a fac1:8d08 fac2:8f38 fac3:9072 fac4:9199",
     "fac5:9276 fac6:967c fac7:96e3 fac8:9756 fac9:97db faca:97ff facb:980b facc:983b facd:9b12",
     "face:9f9c facf:2284a fad0:22844 fad1:233d5 fad2:3b9d fad3:4018 fad4:4039 fad5:25249",
     "fad6:25cd0 fad7:27ed3 fad8:9f43 fad9:9f8e fb1d:5d9_5b4 fb1f:5f2_5b7 fb2a:5e9_5c1",
     "fb2b:5e9_5c2 fb2c:5e9_5bc_5c1 fb2d:5e9_5bc_5c2 fb2e:5d0_5b7 fb2f:5d0_5b8 fb30:5d0_5bc",
     "fb31:5d1_5bc fb32:5d2_5bc fb33:5d3_5bc fb34:5d4_5bc fb35:5d5_5bc fb36:5d6_5bc fb38:5d8_5bc",
     "fb39:5d9_5bc fb3a:5da_5bc fb3b:5db_5bc fb3c:5dc_5bc fb3e:5de_5bc fb40:5e0_5bc fb41:5e1_5bc",
     "fb43:5e3_5bc fb44:5e4_5bc fb46:5e6_5bc fb47:5e7_5bc fb48:5e8_5bc fb49:5e9_5bc fb4a:5ea_5bc",
     "fb4b:5d5_5b9 fb4c:5d1_5bf fb4d:5db_5bf fb4e:5e4_5bf 105c9:105d2_307 105e4:105da_307",
     "1109a:11099_110ba 1109c:1109b_110ba 110ab:110a5_110ba 1112e:11131_11127 1112f:11132_11127",
     "1134b:11347_1133e 1134c:11347_11357 11383:11382_113c9 11385:11384_113bb 1138e:1138b_113c2",
     "11391:11390_113c9 113c5:113c2_113c2 113c7:113c2_113b8 113c8:113c2_113c9 114bb:114b9_114ba",
     "114bc:114b9_114b0 114be:114b9_114bd 115ba:115b8_115af 115bb:115b9_115af 11938:11935_11930",
     "16121:1611e_1611e 16122:1611e_16129 16123:1611e_1611f 16124:16129_1611f 16125:1611e_16120",
     "16126:1611e_1611e_1611f 16127:1611e_16129_1611f 16128:1611e_1611e_16120 16d68:16d67_16d67",
     "16d69:16d63_16d67 16d6a:16d63_16d67_16d67 1d15e:1d157_1d165 1d15f:1d158_1d165",
     "1d160:1d158_1d165_1d16e 1d161:1d158_1d165_1d16f 1d162:1d158_1d165_1d170",
     "1d163:1d158_1d165_1d171 1d164:1d158_1d165_1d172 1d1bb:1d1b9_1d165 1d1bc:1d1ba_1d165",
     "1d1bd:1d1b9_1d165_1d16e 1d1be:1d1ba_1d165_1d16e 1d1bf:1d1b9_1d165_1d16f",
     "1d1c0:1d1ba_1d165_1d16f 2f800:4e3d 2f801:4e38 2f802:4e41 2f803:20122 2f804:4f60 2f805:4fae",
     "2f806:4fbb 2f807:5002 2f808:507a 2f809:5099 2f80a:50e7 2f80b:50cf 2f80c:349e 2f80d:2063a",
     "2f80e:514d 2f80f:5154 2f810:5164 2f811:5177 2f812:2051c 2f813:34b9 2f814:5167 2f815:518d",
     "2f816:2054b 2f817:5197 2f818:51a4 2f819:4ecc 2f81a:51ac 2f81b:51b5 2f81c:291df 2f81d:51f5",
     "2f81e:5203 2f81f:34df 2f820:523b 2f821:5246 2f822:5272 2f823:5277 2f824:3515 2f825:52c7",
     "2f826:52c9 2f827:52e4 2f828:52fa 2f829:5305 2f82a:5306 2f82b:5317 2f82c:5349 2f82d:5351",
     "2f82e:535a 2f82f:5373 2f830:537d 2f831:537f 2f832:537f 2f833:537f 2f834:20a2c 2f835:7070",
     "2f836:53ca 2f837:53df 2f838:20b63 2f839:53eb 2f83a:53f1 2f83b:5406 2f83c:549e 2f83d:5438",
     "2f83e:5448 2f83f:5468 2f840:54a2 2f841:54f6 2f842:5510 2f843:5553 2f844:5563 2f845:5584",
     "2f846:5584 2f847:5599 2f848:55ab 2f849:55b3 2f84a:55c2 2f84b:5716 2f84c:5606 2f84d:5717",
     "2f84e:5651 2f84f:5674 2f850:5207 2f851:58ee 2f852:57ce 2f853:57f4 2f854:580d 2f855:578b",
     "2f856:5832 2f857:5831 2f858:58ac 2f859:214e4 2f85a:58f2 2f85b:58f7 2f85c:5906 2f85d:591a",
     "2f85e:5922 2f85f:5962 2f860:216a8 2f861:216ea 2f862:59ec 2f863:5a1b 2f864:5a27 2f865:59d8",
     "2f866:5a66 2f867:36ee 2f868:36fc 2f869:5b08 2f86a:5b3e 2f86b:5b3e 2f86c:219c8 2f86d:5bc3",
     "2f86e:5bd8 2f86f:5be7 2f870:5bf3 2f871:21b18 2f872:5bff 2f873:5c06 2f874:5f53 2f875:5c22",
     "2f876:3781 2f877:5c60 2f878:5c6e 2f879:5cc0 2f87a:5c8d 2f87b:21de4 2f87c:5d43 2f87d:21de6",
     "2f87e:5d6e 2f87f:5d6b 2f880:5d7c 2f881:5de1 2f882:5de2 2f883:382f 2f884:5dfd 2f885:5e28",
     "2f886:5e3d 2f887:5e69 2f888:3862 2f889:22183 2f88a:387c 2f88b:5eb0 2f88c:5eb3 2f88d:5eb6",
     "2f88e:5eca 2f88f:2a392 2f890:5efe 2f891:22331 2f892:22331 2f893:8201 2f894:5f22 2f895:5f22",
     "2f896:38c7 2f897:232b8 2f898:261da 2f899:5f62 2f89a:5f6b 2f89b:38e3 2f89c:5f9a 2f89d:5fcd",
     "2f89e:5fd7 2f89f:5ff9 2f8a0:6081 2f8a1:393a 2f8a2:391c 2f8a3:6094 2f8a4:226d4 2f8a5:60c7",
     "2f8a6:6148 2f8a7:614c 2f8a8:614e 2f8a9:614c 2f8aa:617a 2f8ab:618e 2f8ac:61b2 2f8ad:61a4",
     "2f8ae:61af 2f8af:61de 2f8b0:61f2 2f8b1:61f6 2f8b2:6210 2f8b3:621b 2f8b4:625d 2f8b5:62b1",
     "2f8b6:62d4 2f8b7:6350 2f8b8:22b0c 2f8b9:633d 2f8ba:62fc 2f8bb:6368 2f8bc:6383 2f8bd:63e4",
     "2f8be:22bf1 2f8bf:6422 2f8c0:63c5 2f8c1:63a9 2f8c2:3a2e 2f8c3:6469 2f8c4:647e 2f8c5:649d",
     "2f8c6:6477 2f8c7:3a6c 2f8c8:654f 2f8c9:656c 2f8ca:2300a 2f8cb:65e3 2f8cc:66f8 2f8cd:6649",
     "2f8ce:3b19 2f8cf:6691 2f8d0:3b08 2f8d1:3ae4 2f8d2:5192 2f8d3:5195 2f8d4:6700 2f8d5:669c",
     "2f8d6:80ad 2f8d7:43d9 2f8d8:6717 2f8d9:671b 2f8da:6721 2f8db:675e 2f8dc:6753 2f8dd:233c3",
     "2f8de:3b49 2f8df:67fa 2f8e0:6785 2f8e1:6852 2f8e2:6885 2f8e3:2346d 2f8e4:688e 2f8e5:681f",
     "2f8e6:6914 2f8e7:3b9d 2f8e8:6942 2f8e9:69a3 2f8ea:69ea 2f8eb:6aa8 2f8ec:236a3 2f8ed:6adb",
     "2f8ee:3c18 2f8ef:6b21 2f8f0:238a7 2f8f1:6b54 2f8f2:3c4e 2f8f3:6b72 2f8f4:6b9f 2f8f5:6bba",
     "2f8f6:6bbb 2f8f7:23a8d 2f8f8:21d0b 2f8f9:23afa 2f8fa:6c4e 2f8fb:23cbc 2f8fc:6cbf 2f8fd:6ccd",
     "2f8fe:6c67 2f8ff:6d16 2f900:6d3e 2f901:6d77 2f902:6d41 2f903:6d69 2f904:6d78 2f905:6d85",
     "2f906:23d1e 2f907:6d34 2f908:6e2f 2f909:6e6e 2f90a:3d33 2f90b:6ecb 2f90c:6ec7 2f90d:23ed1",
     "2f90e:6df9 2f90f:6f6e 2f910:23f5e 2f911:23f8e 2f912:6fc6 2f913:7039 2f914:701e 2f915:701b",
     "2f916:3d96 2f917:704a 2f918:707d 2f919:7077 2f91a:70ad 2f91b:20525 2f91c:7145 2f91d:24263",
     "2f91e:719c 2f91f:243ab 2f920:7228 2f921:7235 2f922:7250 2f923:24608 2f924:7280 2f925:7295",
     "2f926:24735 2f927:24814 2f928:737a 2f929:738b 2f92a:3eac 2f92b:73a5 2f92c:3eb8 2f92d:3eb8",
     "2f92e:7447 2f92f:745c 2f930:7471 2f931:7485 2f932:74ca 2f933:3f1b 2f934:7524 2f935:24c36",
     "2f936:753e 2f937:24c92 2f938:7570 2f939:2219f 2f93a:7610 2f93b:24fa1 2f93c:24fb8 2f93d:25044",
     "2f93e:3ffc 2f93f:4008 2f940:76f4 2f941:250f3 2f942:250f2 2f943:25119 2f944:25133 2f945:771e",
     "2f946:771f 2f947:771f 2f948:774a 2f949:4039 2f94a:778b 2f94b:4046 2f94c:4096 2f94d:2541d",
     "2f94e:784e 2f94f:788c 2f950:78cc 2f951:40e3 2f952:25626 2f953:7956 2f954:2569a 2f955:256c5",
     "2f956:798f 2f957:79eb 2f958:412f 2f959:7a40 2f95a:7a4a 2f95b:7a4f 2f95c:2597c 2f95d:25aa7",
     "2f95e:25aa7 2f95f:7aee 2f960:4202 2f961:25bab 2f962:7bc6 2f963:7bc9 2f964:4227 2f965:25c80",
     "2f966:7cd2 2f967:42a0 2f968:7ce8 2f969:7ce3 2f96a:7d00 2f96b:25f86 2f96c:7d63 2f96d:4301",
     "2f96e:7dc7 2f96f:7e02 2f970:7e45 2f971:4334 2f972:26228 2f973:26247 2f974:4359 2f975:262d9",
     "2f976:7f7a 2f977:2633e 2f978:7f95 2f979:7ffa 2f97a:8005 2f97b:264da 2f97c:26523 2f97d:8060",
     "2f97e:265a8 2f97f:8070 2f980:2335f 2f981:43d5 2f982:80b2 2f983:8103 2f984:440b 2f985:813e",
     "2f986:5ab5 2f987:267a7 2f988:267b5 2f989:23393 2f98a:2339c 2f98b:8201 2f98c:8204 2f98d:8f9e",
     "2f98e:446b 2f98f:8291 2f990:828b 2f991:829d 2f992:52b3 2f993:82b1 2f994:82b3 2f995:82bd",
     "2f996:82e6 2f997:26b3c 2f998:82e5 2f999:831d 2f99a:8363 2f99b:83ad 2f99c:8323 2f99d:83bd",
     "2f99e:83e7 2f99f:8457 2f9a0:8353 2f9a1:83ca 2f9a2:83cc 2f9a3:83dc 2f9a4:26c36 2f9a5:26d6b",
     "2f9a6:26cd5 2f9a7:452b 2f9a8:84f1 2f9a9:84f3 2f9aa:8516 2f9ab:273ca 2f9ac:8564 2f9ad:26f2c",
     "2f9ae:455d 2f9af:4561 2f9b0:26fb1 2f9b1:270d2 2f9b2:456b 2f9b3:8650 2f9b4:865c 2f9b5:8667",
     "2f9b6:8669 2f9b7:86a9 2f9b8:8688 2f9b9:870e 2f9ba:86e2 2f9bb:8779 2f9bc:8728 2f9bd:876b",
     "2f9be:8786 2f9bf:45d7 2f9c0:87e1 2f9c1:8801 2f9c2:45f9 2f9c3:8860 2f9c4:8863 2f9c5:27667",
     "2f9c6:88d7 2f9c7:88de 2f9c8:4635 2f9c9:88fa 2f9ca:34bb 2f9cb:278ae 2f9cc:27966 2f9cd:46be",
     "2f9ce:46c7 2f9cf:8aa0 2f9d0:8aed 2f9d1:8b8a 2f9d2:8c55 2f9d3:27ca8 2f9d4:8cab 2f9d5:8cc1",
     "2f9d6:8d1b 2f9d7:8d77 2f9d8:27f2f 2f9d9:20804 2f9da:8dcb 2f9db:8dbc 2f9dc:8df0 2f9dd:208de",
     "2f9de:8ed4 2f9df:8f38 2f9e0:285d2 2f9e1:285ed 2f9e2:9094 2f9e3:90f1 2f9e4:9111 2f9e5:2872e",
     "2f9e6:911b 2f9e7:9238 2f9e8:92d7 2f9e9:92d8 2f9ea:927c 2f9eb:93f9 2f9ec:9415 2f9ed:28bfa",
     "2f9ee:958b 2f9ef:4995 2f9f0:95b7 2f9f1:28d77 2f9f2:49e6 2f9f3:96c3 2f9f4:5db2 2f9f5:9723",
     "2f9f6:29145 2f9f7:2921a 2f9f8:4a6e 2f9f9:4a76 2f9fa:97e0 2f9fb:2940a 2f9fc:4ab2 2f9fd:29496",
     "2f9fe:980b 2f9ff:980b 2fa00:9829 2fa01:295b6 2fa02:98e2 2fa03:4b33 2fa04:9929 2fa05:99a7",
     "2fa06:99c2 2fa07:99fe 2fa08:4bce 2fa09:29b30 2fa0a:9b12 2fa0b:9c40 2fa0c:9cfd 2fa0d:4cce",
     "2fa0e:4ced 2fa0f:9d67 2fa10:2a0ce 2fa11:4cf8 2fa12:2a105 2fa13:2a20e 2fa14:2a291 2fa15:9ebb",
     "2fa16:4d56 2fa17:9ef9 2fa18:9efe 2fa19:9f05 2fa1a:9f0f 2fa1b:9f16 2fa1c:9f3b 2fa1d:2a600"]

/-- The primary composites, by the pair they compose, keyed `a · 2^21 + b`. -/
def composites : Array (Nat × Nat) :=
  (tableWords lines).toArray.filterMap fun w =>
    match w.splitOn ":" with
    | [ab, c] => do
      match ← hexList ab with
      | [a, b] => pure (a * 0x200000 + b, ← hexNumber c)
      | _ => none
    | _ => none
where
  lines : List String :=
    ["3c_338:226e 3d_338:2260 3e_338:226f 41_300:c0 41_301:c1 41_302:c2 41_303:c3 41_304:100",
     "41_306:102 41_307:226 41_308:c4 41_309:1ea2 41_30a:c5 41_30c:1cd 41_30f:200 41_311:202",
     "41_323:1ea0 41_325:1e00 41_328:104 42_307:1e02 42_323:1e04 42_331:1e06 43_301:106 43_302:108",
     "43_307:10a 43_30c:10c 43_327:c7 44_307:1e0a 44_30c:10e 44_323:1e0c 44_327:1e10 44_32d:1e12",
     "44_331:1e0e 45_300:c8 45_301:c9 45_302:ca 45_303:1ebc 45_304:112 45_306:114 45_307:116",
     "45_308:cb 45_309:1eba 45_30c:11a 45_30f:204 45_311:206 45_323:1eb8 45_327:228 45_328:118",
     "45_32d:1e18 45_330:1e1a 46_307:1e1e 47_301:1f4 47_302:11c 47_304:1e20 47_306:11e 47_307:120",
     "47_30c:1e6 47_327:122 48_302:124 48_307:1e22 48_308:1e26 48_30c:21e 48_323:1e24 48_327:1e28",
     "48_32e:1e2a 49_300:cc 49_301:cd 49_302:ce 49_303:128 49_304:12a 49_306:12c 49_307:130",
     "49_308:cf 49_309:1ec8 49_30c:1cf 49_30f:208 49_311:20a 49_323:1eca 49_328:12e 49_330:1e2c",
     "4a_302:134 4b_301:1e30 4b_30c:1e8 4b_323:1e32 4b_327:136 4b_331:1e34 4c_301:139 4c_30c:13d",
     "4c_323:1e36 4c_327:13b 4c_32d:1e3c 4c_331:1e3a 4d_301:1e3e 4d_307:1e40 4d_323:1e42",
     "4e_300:1f8 4e_301:143 4e_303:d1 4e_307:1e44 4e_30c:147 4e_323:1e46 4e_327:145 4e_32d:1e4a",
     "4e_331:1e48 4f_300:d2 4f_301:d3 4f_302:d4 4f_303:d5 4f_304:14c 4f_306:14e 4f_307:22e",
     "4f_308:d6 4f_309:1ece 4f_30b:150 4f_30c:1d1 4f_30f:20c 4f_311:20e 4f_31b:1a0 4f_323:1ecc",
     "4f_328:1ea 50_301:1e54 50_307:1e56 52_301:154 52_307:1e58 52_30c:158 52_30f:210 52_311:212",
     "52_323:1e5a 52_327:156 52_331:1e5e 53_301:15a 53_302:15c 53_307:1e60 53_30c:160 53_323:1e62",
     "53_326:218 53_327:15e 54_307:1e6a 54_30c:164 54_323:1e6c 54_326:21a 54_327:162 54_32d:1e70",
     "54_331:1e6e 55_300:d9 55_301:da 55_302:db 55_303:168 55_304:16a 55_306:16c 55_308:dc",
     "55_309:1ee6 55_30a:16e 55_30b:170 55_30c:1d3 55_30f:214 55_311:216 55_31b:1af 55_323:1ee4",
     "55_324:1e72 55_328:172 55_32d:1e76 55_330:1e74 56_303:1e7c 56_323:1e7e 57_300:1e80",
     "57_301:1e82 57_302:174 57_307:1e86 57_308:1e84 57_323:1e88 58_307:1e8a 58_308:1e8c",
     "59_300:1ef2 59_301:dd 59_302:176 59_303:1ef8 59_304:232 59_307:1e8e 59_308:178 59_309:1ef6",
     "59_323:1ef4 5a_301:179 5a_302:1e90 5a_307:17b 5a_30c:17d 5a_323:1e92 5a_331:1e94 61_300:e0",
     "61_301:e1 61_302:e2 61_303:e3 61_304:101 61_306:103 61_307:227 61_308:e4 61_309:1ea3",
     "61_30a:e5 61_30c:1ce 61_30f:201 61_311:203 61_323:1ea1 61_325:1e01 61_328:105 62_307:1e03",
     "62_323:1e05 62_331:1e07 63_301:107 63_302:109 63_307:10b 63_30c:10d 63_327:e7 64_307:1e0b",
     "64_30c:10f 64_323:1e0d 64_327:1e11 64_32d:1e13 64_331:1e0f 65_300:e8 65_301:e9 65_302:ea",
     "65_303:1ebd 65_304:113 65_306:115 65_307:117 65_308:eb 65_309:1ebb 65_30c:11b 65_30f:205",
     "65_311:207 65_323:1eb9 65_327:229 65_328:119 65_32d:1e19 65_330:1e1b 66_307:1e1f 67_301:1f5",
     "67_302:11d 67_304:1e21 67_306:11f 67_307:121 67_30c:1e7 67_327:123 68_302:125 68_307:1e23",
     "68_308:1e27 68_30c:21f 68_323:1e25 68_327:1e29 68_32e:1e2b 68_331:1e96 69_300:ec 69_301:ed",
     "69_302:ee 69_303:129 69_304:12b 69_306:12d 69_308:ef 69_309:1ec9 69_30c:1d0 69_30f:209",
     "69_311:20b 69_323:1ecb 69_328:12f 69_330:1e2d 6a_302:135 6a_30c:1f0 6b_301:1e31 6b_30c:1e9",
     "6b_323:1e33 6b_327:137 6b_331:1e35 6c_301:13a 6c_30c:13e 6c_323:1e37 6c_327:13c 6c_32d:1e3d",
     "6c_331:1e3b 6d_301:1e3f 6d_307:1e41 6d_323:1e43 6e_300:1f9 6e_301:144 6e_303:f1 6e_307:1e45",
     "6e_30c:148 6e_323:1e47 6e_327:146 6e_32d:1e4b 6e_331:1e49 6f_300:f2 6f_301:f3 6f_302:f4",
     "6f_303:f5 6f_304:14d 6f_306:14f 6f_307:22f 6f_308:f6 6f_309:1ecf 6f_30b:151 6f_30c:1d2",
     "6f_30f:20d 6f_311:20f 6f_31b:1a1 6f_323:1ecd 6f_328:1eb 70_301:1e55 70_307:1e57 72_301:155",
     "72_307:1e59 72_30c:159 72_30f:211 72_311:213 72_323:1e5b 72_327:157 72_331:1e5f 73_301:15b",
     "73_302:15d 73_307:1e61 73_30c:161 73_323:1e63 73_326:219 73_327:15f 74_307:1e6b 74_308:1e97",
     "74_30c:165 74_323:1e6d 74_326:21b 74_327:163 74_32d:1e71 74_331:1e6f 75_300:f9 75_301:fa",
     "75_302:fb 75_303:169 75_304:16b 75_306:16d 75_308:fc 75_309:1ee7 75_30a:16f 75_30b:171",
     "75_30c:1d4 75_30f:215 75_311:217 75_31b:1b0 75_323:1ee5 75_324:1e73 75_328:173 75_32d:1e77",
     "75_330:1e75 76_303:1e7d 76_323:1e7f 77_300:1e81 77_301:1e83 77_302:175 77_307:1e87",
     "77_308:1e85 77_30a:1e98 77_323:1e89 78_307:1e8b 78_308:1e8d 79_300:1ef3 79_301:fd 79_302:177",
     "79_303:1ef9 79_304:233 79_307:1e8f 79_308:ff 79_309:1ef7 79_30a:1e99 79_323:1ef5 7a_301:17a",
     "7a_302:1e91 7a_307:17c 7a_30c:17e 7a_323:1e93 7a_331:1e95 a8_300:1fed a8_301:385 a8_342:1fc1",
     "c2_300:1ea6 c2_301:1ea4 c2_303:1eaa c2_309:1ea8 c4_304:1de c5_301:1fa c6_301:1fc c6_304:1e2",
     "c7_301:1e08 ca_300:1ec0 ca_301:1ebe ca_303:1ec4 ca_309:1ec2 cf_301:1e2e d4_300:1ed2",
     "d4_301:1ed0 d4_303:1ed6 d4_309:1ed4 d5_301:1e4c d5_304:22c d5_308:1e4e d6_304:22a d8_301:1fe",
     "dc_300:1db dc_301:1d7 dc_304:1d5 dc_30c:1d9 e2_300:1ea7 e2_301:1ea5 e2_303:1eab e2_309:1ea9",
     "e4_304:1df e5_301:1fb e6_301:1fd e6_304:1e3 e7_301:1e09 ea_300:1ec1 ea_301:1ebf ea_303:1ec5",
     "ea_309:1ec3 ef_301:1e2f f4_300:1ed3 f4_301:1ed1 f4_303:1ed7 f4_309:1ed5 f5_301:1e4d",
     "f5_304:22d f5_308:1e4f f6_304:22b f8_301:1ff fc_300:1dc fc_301:1d8 fc_304:1d6 fc_30c:1da",
     "102_300:1eb0 102_301:1eae 102_303:1eb4 102_309:1eb2 103_300:1eb1 103_301:1eaf 103_303:1eb5",
     "103_309:1eb3 112_300:1e14 112_301:1e16 113_300:1e15 113_301:1e17 14c_300:1e50 14c_301:1e52",
     "14d_300:1e51 14d_301:1e53 15a_307:1e64 15b_307:1e65 160_307:1e66 161_307:1e67 168_301:1e78",
     "169_301:1e79 16a_308:1e7a 16b_308:1e7b 17f_307:1e9b 1a0_300:1edc 1a0_301:1eda 1a0_303:1ee0",
     "1a0_309:1ede 1a0_323:1ee2 1a1_300:1edd 1a1_301:1edb 1a1_303:1ee1 1a1_309:1edf 1a1_323:1ee3",
     "1af_300:1eea 1af_301:1ee8 1af_303:1eee 1af_309:1eec 1af_323:1ef0 1b0_300:1eeb 1b0_301:1ee9",
     "1b0_303:1eef 1b0_309:1eed 1b0_323:1ef1 1b7_30c:1ee 1ea_304:1ec 1eb_304:1ed 226_304:1e0",
     "227_304:1e1 228_306:1e1c 229_306:1e1d 22e_304:230 22f_304:231 292_30c:1ef 391_300:1fba",
     "391_301:386 391_304:1fb9 391_306:1fb8 391_313:1f08 391_314:1f09 391_345:1fbc 395_300:1fc8",
     "395_301:388 395_313:1f18 395_314:1f19 397_300:1fca 397_301:389 397_313:1f28 397_314:1f29",
     "397_345:1fcc 399_300:1fda 399_301:38a 399_304:1fd9 399_306:1fd8 399_308:3aa 399_313:1f38",
     "399_314:1f39 39f_300:1ff8 39f_301:38c 39f_313:1f48 39f_314:1f49 3a1_314:1fec 3a5_300:1fea",
     "3a5_301:38e 3a5_304:1fe9 3a5_306:1fe8 3a5_308:3ab 3a5_314:1f59 3a9_300:1ffa 3a9_301:38f",
     "3a9_313:1f68 3a9_314:1f69 3a9_345:1ffc 3ac_345:1fb4 3ae_345:1fc4 3b1_300:1f70 3b1_301:3ac",
     "3b1_304:1fb1 3b1_306:1fb0 3b1_313:1f00 3b1_314:1f01 3b1_342:1fb6 3b1_345:1fb3 3b5_300:1f72",
     "3b5_301:3ad 3b5_313:1f10 3b5_314:1f11 3b7_300:1f74 3b7_301:3ae 3b7_313:1f20 3b7_314:1f21",
     "3b7_342:1fc6 3b7_345:1fc3 3b9_300:1f76 3b9_301:3af 3b9_304:1fd1 3b9_306:1fd0 3b9_308:3ca",
     "3b9_313:1f30 3b9_314:1f31 3b9_342:1fd6 3bf_300:1f78 3bf_301:3cc 3bf_313:1f40 3bf_314:1f41",
     "3c1_313:1fe4 3c1_314:1fe5 3c5_300:1f7a 3c5_301:3cd 3c5_304:1fe1 3c5_306:1fe0 3c5_308:3cb",
     "3c5_313:1f50 3c5_314:1f51 3c5_342:1fe6 3c9_300:1f7c 3c9_301:3ce 3c9_313:1f60 3c9_314:1f61",
     "3c9_342:1ff6 3c9_345:1ff3 3ca_300:1fd2 3ca_301:390 3ca_342:1fd7 3cb_300:1fe2 3cb_301:3b0",
     "3cb_342:1fe7 3ce_345:1ff4 3d2_301:3d3 3d2_308:3d4 406_308:407 410_306:4d0 410_308:4d2",
     "413_301:403 415_300:400 415_306:4d6 415_308:401 416_306:4c1 416_308:4dc 417_308:4de",
     "418_300:40d 418_304:4e2 418_306:419 418_308:4e4 41a_301:40c 41e_308:4e6 423_304:4ee",
     "423_306:40e 423_308:4f0 423_30b:4f2 427_308:4f4 42b_308:4f8 42d_308:4ec 430_306:4d1",
     "430_308:4d3 433_301:453 435_300:450 435_306:4d7 435_308:451 436_306:4c2 436_308:4dd",
     "437_308:4df 438_300:45d 438_304:4e3 438_306:439 438_308:4e5 43a_301:45c 43e_308:4e7",
     "443_304:4ef 443_306:45e 443_308:4f1 443_30b:4f3 447_308:4f5 44b_308:4f9 44d_308:4ed",
     "456_308:457 474_30f:476 475_30f:477 4d8_308:4da 4d9_308:4db 4e8_308:4ea 4e9_308:4eb",
     "627_653:622 627_654:623 627_655:625 648_654:624 64a_654:626 6c1_654:6c2 6d2_654:6d3",
     "6d5_654:6c0 928_93c:929 930_93c:931 933_93c:934 9c7_9be:9cb 9c7_9d7:9cc b47_b3e:b4b",
     "b47_b56:b48 b47_b57:b4c b92_bd7:b94 bc6_bbe:bca bc6_bd7:bcc bc7_bbe:bcb c46_c56:c48",
     "cbf_cd5:cc0 cc6_cc2:cca cc6_cd5:cc7 cc6_cd6:cc8 cca_cd5:ccb d46_d3e:d4a d46_d57:d4c",
     "d47_d3e:d4b dd9_dca:dda dd9_dcf:ddc dd9_ddf:dde ddc_dca:ddd 1025_102e:1026 1b05_1b35:1b06",
     "1b07_1b35:1b08 1b09_1b35:1b0a 1b0b_1b35:1b0c 1b0d_1b35:1b0e 1b11_1b35:1b12 1b3a_1b35:1b3b",
     "1b3c_1b35:1b3d 1b3e_1b35:1b40 1b3f_1b35:1b41 1b42_1b35:1b43 1e36_304:1e38 1e37_304:1e39",
     "1e5a_304:1e5c 1e5b_304:1e5d 1e62_307:1e68 1e63_307:1e69 1ea0_302:1eac 1ea0_306:1eb6",
     "1ea1_302:1ead 1ea1_306:1eb7 1eb8_302:1ec6 1eb9_302:1ec7 1ecc_302:1ed8 1ecd_302:1ed9",
     "1f00_300:1f02 1f00_301:1f04 1f00_342:1f06 1f00_345:1f80 1f01_300:1f03 1f01_301:1f05",
     "1f01_342:1f07 1f01_345:1f81 1f02_345:1f82 1f03_345:1f83 1f04_345:1f84 1f05_345:1f85",
     "1f06_345:1f86 1f07_345:1f87 1f08_300:1f0a 1f08_301:1f0c 1f08_342:1f0e 1f08_345:1f88",
     "1f09_300:1f0b 1f09_301:1f0d 1f09_342:1f0f 1f09_345:1f89 1f0a_345:1f8a 1f0b_345:1f8b",
     "1f0c_345:1f8c 1f0d_345:1f8d 1f0e_345:1f8e 1f0f_345:1f8f 1f10_300:1f12 1f10_301:1f14",
     "1f11_300:1f13 1f11_301:1f15 1f18_300:1f1a 1f18_301:1f1c 1f19_300:1f1b 1f19_301:1f1d",
     "1f20_300:1f22 1f20_301:1f24 1f20_342:1f26 1f20_345:1f90 1f21_300:1f23 1f21_301:1f25",
     "1f21_342:1f27 1f21_345:1f91 1f22_345:1f92 1f23_345:1f93 1f24_345:1f94 1f25_345:1f95",
     "1f26_345:1f96 1f27_345:1f97 1f28_300:1f2a 1f28_301:1f2c 1f28_342:1f2e 1f28_345:1f98",
     "1f29_300:1f2b 1f29_301:1f2d 1f29_342:1f2f 1f29_345:1f99 1f2a_345:1f9a 1f2b_345:1f9b",
     "1f2c_345:1f9c 1f2d_345:1f9d 1f2e_345:1f9e 1f2f_345:1f9f 1f30_300:1f32 1f30_301:1f34",
     "1f30_342:1f36 1f31_300:1f33 1f31_301:1f35 1f31_342:1f37 1f38_300:1f3a 1f38_301:1f3c",
     "1f38_342:1f3e 1f39_300:1f3b 1f39_301:1f3d 1f39_342:1f3f 1f40_300:1f42 1f40_301:1f44",
     "1f41_300:1f43 1f41_301:1f45 1f48_300:1f4a 1f48_301:1f4c 1f49_300:1f4b 1f49_301:1f4d",
     "1f50_300:1f52 1f50_301:1f54 1f50_342:1f56 1f51_300:1f53 1f51_301:1f55 1f51_342:1f57",
     "1f59_300:1f5b 1f59_301:1f5d 1f59_342:1f5f 1f60_300:1f62 1f60_301:1f64 1f60_342:1f66",
     "1f60_345:1fa0 1f61_300:1f63 1f61_301:1f65 1f61_342:1f67 1f61_345:1fa1 1f62_345:1fa2",
     "1f63_345:1fa3 1f64_345:1fa4 1f65_345:1fa5 1f66_345:1fa6 1f67_345:1fa7 1f68_300:1f6a",
     "1f68_301:1f6c 1f68_342:1f6e 1f68_345:1fa8 1f69_300:1f6b 1f69_301:1f6d 1f69_342:1f6f",
     "1f69_345:1fa9 1f6a_345:1faa 1f6b_345:1fab 1f6c_345:1fac 1f6d_345:1fad 1f6e_345:1fae",
     "1f6f_345:1faf 1f70_345:1fb2 1f74_345:1fc2 1f7c_345:1ff2 1fb6_345:1fb7 1fbf_300:1fcd",
     "1fbf_301:1fce 1fbf_342:1fcf 1fc6_345:1fc7 1ff6_345:1ff7 1ffe_300:1fdd 1ffe_301:1fde",
     "1ffe_342:1fdf 2190_338:219a 2192_338:219b 2194_338:21ae 21d0_338:21cd 21d2_338:21cf",
     "21d4_338:21ce 2203_338:2204 2208_338:2209 220b_338:220c 2223_338:2224 2225_338:2226",
     "223c_338:2241 2243_338:2244 2245_338:2247 2248_338:2249 224d_338:226d 2261_338:2262",
     "2264_338:2270 2265_338:2271 2272_338:2274 2273_338:2275 2276_338:2278 2277_338:2279",
     "227a_338:2280 227b_338:2281 227c_338:22e0 227d_338:22e1 2282_338:2284 2283_338:2285",
     "2286_338:2288 2287_338:2289 2291_338:22e2 2292_338:22e3 22a2_338:22ac 22a8_338:22ad",
     "22a9_338:22ae 22ab_338:22af 22b2_338:22ea 22b3_338:22eb 22b4_338:22ec 22b5_338:22ed",
     "3046_3099:3094 304b_3099:304c 304d_3099:304e 304f_3099:3050 3051_3099:3052 3053_3099:3054",
     "3055_3099:3056 3057_3099:3058 3059_3099:305a 305b_3099:305c 305d_3099:305e 305f_3099:3060",
     "3061_3099:3062 3064_3099:3065 3066_3099:3067 3068_3099:3069 306f_3099:3070 306f_309a:3071",
     "3072_3099:3073 3072_309a:3074 3075_3099:3076 3075_309a:3077 3078_3099:3079 3078_309a:307a",
     "307b_3099:307c 307b_309a:307d 309d_3099:309e 30a6_3099:30f4 30ab_3099:30ac 30ad_3099:30ae",
     "30af_3099:30b0 30b1_3099:30b2 30b3_3099:30b4 30b5_3099:30b6 30b7_3099:30b8 30b9_3099:30ba",
     "30bb_3099:30bc 30bd_3099:30be 30bf_3099:30c0 30c1_3099:30c2 30c4_3099:30c5 30c6_3099:30c7",
     "30c8_3099:30c9 30cf_3099:30d0 30cf_309a:30d1 30d2_3099:30d3 30d2_309a:30d4 30d5_3099:30d6",
     "30d5_309a:30d7 30d8_3099:30d9 30d8_309a:30da 30db_3099:30dc 30db_309a:30dd 30ef_3099:30f7",
     "30f0_3099:30f8 30f1_3099:30f9 30f2_3099:30fa 30fd_3099:30fe 105d2_307:105c9 105da_307:105e4",
     "11099_110ba:1109a 1109b_110ba:1109c 110a5_110ba:110ab 11131_11127:1112e 11132_11127:1112f",
     "11347_1133e:1134b 11347_11357:1134c 11382_113c9:11383 11384_113bb:11385 1138b_113c2:1138e",
     "11390_113c9:11391 113c2_113b8:113c7 113c2_113c2:113c5 113c2_113c9:113c8 114b9_114b0:114bc",
     "114b9_114ba:114bb 114b9_114bd:114be 115b8_115af:115ba 115b9_115af:115bb 11935_11930:11938",
     "1611e_1611e:16121 1611e_1611f:16123 1611e_16120:16125 1611e_16129:16122 16121_1611f:16126",
     "16121_16120:16128 16122_1611f:16127 16129_1611f:16124 16d63_16d67:16d69 16d67_16d67:16d68",
     "16d69_16d67:16d6a"]

/-- The ranges of code points with a nonzero canonical combining class, with the class. -/
def combiningRanges : Array (Nat × Nat × Nat) :=
  (tableWords lines).toArray.filterMap fun w =>
    match w.splitOn ":" with
    | [range, k] =>
      match range.splitOn "-" with
      | [lo, hi] => do pure (← hexNumber lo, ← hexNumber hi, ← k.toNat?)
      | _ => none
    | _ => none
where
  lines : List String :=
    ["300-314:230 315-315:232 316-319:220 31a-31a:232 31b-31b:216 31c-320:220 321-322:202",
     "323-326:220 327-328:202 329-333:220 334-338:1 339-33c:220 33d-344:230 345-345:240",
     "346-346:230 347-349:220 34a-34c:230 34d-34e:220 350-352:230 353-356:220 357-357:230",
     "358-358:232 359-35a:220 35b-35b:230 35c-35c:233 35d-35e:234 35f-35f:233 360-361:234",
     "362-362:233 363-36f:230 483-487:230 591-591:220 592-595:230 596-596:220 597-599:230",
     "59a-59a:222 59b-59b:220 59c-5a1:230 5a2-5a7:220 5a8-5a9:230 5aa-5aa:220 5ab-5ac:230",
     "5ad-5ad:222 5ae-5ae:228 5af-5af:230 5b0-5b0:10 5b1-5b1:11 5b2-5b2:12 5b3-5b3:13 5b4-5b4:14",
     "5b5-5b5:15 5b6-5b6:16 5b7-5b7:17 5b8-5b8:18 5b9-5ba:19 5bb-5bb:20 5bc-5bc:21 5bd-5bd:22",
     "5bf-5bf:23 5c1-5c1:24 5c2-5c2:25 5c4-5c4:230 5c5-5c5:220 5c7-5c7:18 610-617:230 618-618:30",
     "619-619:31 61a-61a:32 64b-64b:27 64c-64c:28 64d-64d:29 64e-64e:30 64f-64f:31 650-650:32",
     "651-651:33 652-652:34 653-654:230 655-656:220 657-65b:230 65c-65c:220 65d-65e:230",
     "65f-65f:220 670-670:35 6d6-6dc:230 6df-6e2:230 6e3-6e3:220 6e4-6e4:230 6e7-6e8:230",
     "6ea-6ea:220 6eb-6ec:230 6ed-6ed:220 711-711:36 730-730:230 731-731:220 732-733:230",
     "734-734:220 735-736:230 737-739:220 73a-73a:230 73b-73c:220 73d-73d:230 73e-73e:220",
     "73f-741:230 742-742:220 743-743:230 744-744:220 745-745:230 746-746:220 747-747:230",
     "748-748:220 749-74a:230 7eb-7f1:230 7f2-7f2:220 7f3-7f3:230 7fd-7fd:220 816-819:230",
     "81b-823:230 825-827:230 829-82d:230 859-85b:220 898-898:230 899-89b:220 89c-89f:230",
     "8ca-8ce:230 8cf-8d3:220 8d4-8e1:230 8e3-8e3:220 8e4-8e5:230 8e6-8e6:220 8e7-8e8:230",
     "8e9-8e9:220 8ea-8ec:230 8ed-8ef:220 8f0-8f0:27 8f1-8f1:28 8f2-8f2:29 8f3-8f5:230 8f6-8f6:220",
     "8f7-8f8:230 8f9-8fa:220 8fb-8ff:230 93c-93c:7 94d-94d:9 951-951:230 952-952:220 953-954:230",
     "9bc-9bc:7 9cd-9cd:9 9fe-9fe:230 a3c-a3c:7 a4d-a4d:9 abc-abc:7 acd-acd:9 b3c-b3c:7 b4d-b4d:9",
     "bcd-bcd:9 c3c-c3c:7 c4d-c4d:9 c55-c55:84 c56-c56:91 cbc-cbc:7 ccd-ccd:9 d3b-d3c:9 d4d-d4d:9",
     "dca-dca:9 e38-e39:103 e3a-e3a:9 e48-e4b:107 eb8-eb9:118 eba-eba:9 ec8-ecb:122 f18-f19:220",
     "f35-f35:220 f37-f37:220 f39-f39:216 f71-f71:129 f72-f72:130 f74-f74:132 f7a-f7d:130",
     "f80-f80:130 f82-f83:230 f84-f84:9 f86-f87:230 fc6-fc6:220 1037-1037:7 1039-103a:9",
     "108d-108d:220 135d-135f:230 1714-1715:9 1734-1734:9 17d2-17d2:9 17dd-17dd:230 18a9-18a9:228",
     "1939-1939:222 193a-193a:230 193b-193b:220 1a17-1a17:230 1a18-1a18:220 1a60-1a60:9",
     "1a75-1a7c:230 1a7f-1a7f:220 1ab0-1ab4:230 1ab5-1aba:220 1abb-1abc:230 1abd-1abd:220",
     "1abf-1ac0:220 1ac1-1ac2:230 1ac3-1ac4:220 1ac5-1ac9:230 1aca-1aca:220 1acb-1ace:230",
     "1b34-1b34:7 1b44-1b44:9 1b6b-1b6b:230 1b6c-1b6c:220 1b6d-1b73:230 1baa-1bab:9 1be6-1be6:7",
     "1bf2-1bf3:9 1c37-1c37:7 1cd0-1cd2:230 1cd4-1cd4:1 1cd5-1cd9:220 1cda-1cdb:230 1cdc-1cdf:220",
     "1ce0-1ce0:230 1ce2-1ce8:1 1ced-1ced:220 1cf4-1cf4:230 1cf8-1cf9:230 1dc0-1dc1:230",
     "1dc2-1dc2:220 1dc3-1dc9:230 1dca-1dca:220 1dcb-1dcc:230 1dcd-1dcd:234 1dce-1dce:214",
     "1dcf-1dcf:220 1dd0-1dd0:202 1dd1-1df5:230 1df6-1df6:232 1df7-1df8:228 1df9-1df9:220",
     "1dfa-1dfa:218 1dfb-1dfb:230 1dfc-1dfc:233 1dfd-1dfd:220 1dfe-1dfe:230 1dff-1dff:220",
     "20d0-20d1:230 20d2-20d3:1 20d4-20d7:230 20d8-20da:1 20db-20dc:230 20e1-20e1:230 20e5-20e6:1",
     "20e7-20e7:230 20e8-20e8:220 20e9-20e9:230 20ea-20eb:1 20ec-20ef:220 20f0-20f0:230",
     "2cef-2cf1:230 2d7f-2d7f:9 2de0-2dff:230 302a-302a:218 302b-302b:228 302c-302c:232",
     "302d-302d:222 302e-302f:224 3099-309a:8 a66f-a66f:230 a674-a67d:230 a69e-a69f:230",
     "a6f0-a6f1:230 a806-a806:9 a82c-a82c:9 a8c4-a8c4:9 a8e0-a8f1:230 a92b-a92d:220 a953-a953:9",
     "a9b3-a9b3:7 a9c0-a9c0:9 aab0-aab0:230 aab2-aab3:230 aab4-aab4:220 aab7-aab8:230",
     "aabe-aabf:230 aac1-aac1:230 aaf6-aaf6:9 abed-abed:9 fb1e-fb1e:26 fe20-fe26:230 fe27-fe2d:220",
     "fe2e-fe2f:230 101fd-101fd:220 102e0-102e0:220 10376-1037a:230 10a0d-10a0d:220",
     "10a0f-10a0f:230 10a38-10a38:230 10a39-10a39:1 10a3a-10a3a:220 10a3f-10a3f:9 10ae5-10ae5:230",
     "10ae6-10ae6:220 10d24-10d27:230 10eab-10eac:230 10efd-10eff:220 10f46-10f47:220",
     "10f48-10f4a:230 10f4b-10f4b:220 10f4c-10f4c:230 10f4d-10f50:220 10f82-10f82:230",
     "10f83-10f83:220 10f84-10f84:230 10f85-10f85:220 11046-11046:9 11070-11070:9 1107f-1107f:9",
     "110b9-110b9:9 110ba-110ba:7 11100-11102:230 11133-11134:9 11173-11173:7 111c0-111c0:9",
     "111ca-111ca:7 11235-11235:9 11236-11236:7 112e9-112e9:7 112ea-112ea:9 1133b-1133c:7",
     "1134d-1134d:9 11366-1136c:230 11370-11374:230 11442-11442:9 11446-11446:7 1145e-1145e:230",
     "114c2-114c2:9 114c3-114c3:7 115bf-115bf:9 115c0-115c0:7 1163f-1163f:9 116b6-116b6:9",
     "116b7-116b7:7 1172b-1172b:9 11839-11839:9 1183a-1183a:7 1193d-1193e:9 11943-11943:7",
     "119e0-119e0:9 11a34-11a34:9 11a47-11a47:9 11a99-11a99:9 11c3f-11c3f:9 11d42-11d42:7",
     "11d44-11d45:9 11d97-11d97:9 11f41-11f42:9 16af0-16af4:1 16b30-16b36:230 16ff0-16ff1:6",
     "1bc9e-1bc9e:1 1d165-1d166:216 1d167-1d169:1 1d16d-1d16d:226 1d16e-1d172:216 1d17b-1d182:220",
     "1d185-1d189:230 1d18a-1d18b:220 1d1aa-1d1ad:230 1d242-1d244:230 1e000-1e006:230",
     "1e008-1e018:230 1e01b-1e021:230 1e023-1e024:230 1e026-1e02a:230 1e08f-1e08f:230",
     "1e130-1e136:230 1e2ae-1e2ae:230 1e2ec-1e2ef:230 1e4ec-1e4ed:232 1e4ee-1e4ee:220",
     "1e4ef-1e4ef:230 1e8d0-1e8d6:220 1e944-1e949:230 1e94a-1e94a:7"]

/-- The canonical combining class of a code point: 0 for a starter. -/
def combiningClass (c : Nat) : Nat :=
  go 0 combiningRanges.size
where
  /-- Searches the ranges from `lo` to before `hi`. -/
  go (lo hi : Nat) : Nat :=
    if _h : lo < hi then
      match combiningRanges[(lo + hi) / 2]? with
      | some (a, b, k) =>
        if c < a then go lo ((lo + hi) / 2)
        else if b < c then go ((lo + hi) / 2 + 1) hi
        else k
      | none => 0
    else 0
  termination_by hi - lo

/-! ## Hangul -/

/-- The first Hangul syllable. -/
def syllableBase : Nat := 0xAC00

/-- The jamo of a Hangul syllable, `none` for any other code point. -/
def hangulJamo (s : Nat) : Option (List Nat) :=
  if syllableBase ≤ s && s < syllableBase + 11172 then
    let i := s - syllableBase
    let lead := 0x1100 + i / 588
    let vowel := 0x1161 + i % 588 / 28
    let tail := 0x11A7 + i % 28
    some (if tail = 0x11A7 then [lead, vowel] else [lead, vowel, tail])
  else none

/-- The Hangul syllable of a leading consonant and a vowel, or of a syllable without a trailing
consonant and a trailing consonant. -/
def hangulPair (a b : Nat) : Option Nat :=
  if 0x1100 ≤ a && a < 0x1100 + 19 && 0x1161 ≤ b && b < 0x1161 + 21 then
    some (syllableBase + ((a - 0x1100) * 21 + (b - 0x1161)) * 28)
  else if syllableBase ≤ a && a < syllableBase + 11172 && (a - syllableBase) % 28 = 0 &&
      0x11A7 < b && b < 0x11A7 + 28 then
    some (a + (b - 0x11A7))
  else none

/-! ## The normal form -/

/-- The full canonical decomposition of a code point. -/
def decompose (c : Nat) : List Nat :=
  match hangulJamo c with
  | some js => js
  | none => (lookupSorted decompositions c).getD [c]

/-- The primary composite of two code points, if they have one. -/
def composite (a b : Nat) : Option Nat :=
  match hangulPair a b with
  | some s => some s
  | none => lookupSorted composites (a * 0x200000 + b)

/-- The code points with every run of combining characters sorted by class, stably. -/
def canonicalOrder (cs : List Nat) : List Nat :=
  let sortRun (run : List Nat) := run.mergeSort fun a b => combiningClass a ≤ combiningClass b
  let (done, run) := cs.foldl (fun (acc : List Nat × List Nat) c =>
    if combiningClass c = 0 then (acc.1 ++ sortRun acc.2 ++ [c], [])
    else (acc.1, acc.2 ++ [c])) ([], [])
  done ++ sortRun run

/-- Composes decomposed, ordered code points: each joins the last starter when they form a
primary composite and the last character kept after that starter is of a lower class, or is the
starter itself. -/
def composeAll : List Nat → List Nat
  | [] => []
  | first :: rest =>
    let start : Array Nat × Nat × Nat :=
      (#[first], 0, if combiningClass first = 0 then 0 else 256)
    let (out, _, _) := rest.foldl (fun (st : Array Nat × Nat × Nat) c =>
      let (out, pos, last) := st
      let k := combiningClass c
      match composite (out.getD pos 0) c with
      | some comp =>
        if last < k || last = 0 then (out.set! pos comp, pos, last)
        else (out.push c, if k = 0 then out.size else pos, k)
      | none => (out.push c, if k = 0 then out.size else pos, k)) start
    out.toList

/-- The text in normal form C. -/
def normalFormC (cs : List Char) : List Char :=
  (composeAll (canonicalOrder (cs.flatMap fun c => decompose c.toNat))).map Char.ofNat

end StreamDispatch.Text
