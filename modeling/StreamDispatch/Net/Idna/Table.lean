import StreamDispatch.Text.Printing

/-!
# The IDNA mapping table

How each code point fares when a domain name is prepared (UTS #46, version 17.0): it is valid
and kept, ignored and dropped, mapped to a sequence of code points, a deviation (kept, since
processing here is not transitional), or disallowed. Beside it stand the two character classes
that the validity rules ask about: the marks (general category M), which may not begin a
label, and the viramas (canonical combining class 9), after which a zero-width joiner or
non-joiner may stand.

The mapping table is written as words, one per range of code points, in increasing order; a
range runs to the code point before the next word's start. A word is the start in lower-case
hex, then a letter for the rule, then its data:

* `V`, `I`, `D`, `X`: valid, ignored, deviation, disallowed;
* `M` and code points in hex joined by `_`: mapped to those code points;
* `O+h` or `O-h`: each code point maps to itself moved by `h`;
* `A`: a code point at even distance from the start maps to the code point after it, and the
  others are valid (the alternating capital and small letters of many Latin, Greek and
  Cyrillic blocks).
-/

namespace StreamDispatch.Net.Idna

/-- How the table treats a range of code points. -/
inductive Rule where
  | valid
  | ignored
  | deviation
  | disallowed
  | mapped (target : List Nat)
  | shifted (offset : Int)
  | alternating
  deriving Repr, DecidableEq, Inhabited

/-- How one code point fares. -/
inductive Status where
  | valid
  | ignored
  | deviation
  | disallowed
  | mapped (target : List Char)
  deriving Repr, DecidableEq

/-- The status of the code point `c` under a rule whose range starts at `start`. -/
def Rule.status (r : Rule) (start c : Nat) : Status :=
  match r with
  | .valid => .valid
  | .ignored => .ignored
  | .deviation => .deviation
  | .disallowed => .disallowed
  | .mapped target => .mapped (target.map Char.ofNat)
  | .shifted offset => .mapped [Char.ofNat (((c : Int) + offset).toNat)]
  | .alternating => if (c - start) % 2 == 0 then .mapped [Char.ofNat (c + 1)] else .valid

/-- The value of lower-case hex digits. -/
def hexDigits (cs : List Char) : Option Nat :=
  cs.foldlM (fun n ch =>
    if '0' ≤ ch && ch ≤ '9' then some (16 * n + (ch.toNat - 48))
    else if 'a' ≤ ch && ch ≤ 'f' then some (16 * n + (ch.toNat - 87))
    else none) 0

/-- The start and rule of a word of the table. -/
def ruleOfWord (w : String) : Option (Nat × Rule) := do
  let cs := w.toList
  let digits := cs.takeWhile fun ch => ('0' ≤ ch && ch ≤ '9') || ('a' ≤ ch && ch ≤ 'f')
  let start ← if digits.isEmpty then none else hexDigits digits
  let rule ← match cs.drop digits.length with
    | ['V'] => some Rule.valid
    | ['I'] => some Rule.ignored
    | ['D'] => some Rule.deviation
    | ['X'] => some Rule.disallowed
    | ['A'] => some Rule.alternating
    | 'O' :: '+' :: h => (hexDigits h).map fun n => Rule.shifted n
    | 'O' :: '-' :: h => (hexDigits h).map fun n => Rule.shifted (-(n : Int))
    | 'M' :: data =>
      ((String.ofList data).splitOn "_").mapM (fun part => hexDigits part.toList) |>.map .mapped
    | _ => none
  pure (start, rule)

/-- The mapping table, one entry per range, in increasing order of start. -/
def mappingTable : Array (Nat × Rule) :=
  (mappingLines.flatMap fun l => (l.splitOn " ").filterMap ruleOfWord).toArray
where
  mappingLines : List String :=
    ["0V 41O+20 5bV 80X a0O-80 a1V a8M20_308 a9V aaO-49 abV adI aeV afM20_304 b0V b2O-80 b4M20_301",
     "b5O+307 b6V b8M20_327 b9O-88 baO-4b bbV bcM31_2044_34 bdM31_2044_32 beM33_2044_34 bfV c0O+20",
     "d7V d8O+20 dfD e0V 100A 130M69_307 131V 132M69_6a 134O+1 135V 136O+1 137V 139A 13fM6c_b7",
     "141A 149M2bc_6e 14aA 178O-79 179A 17fO-10c 180V 181O+d2 182A 186O+ce 187O+1 188V 189O+cd",
     "18bO+1 18cV 18eO+4f 18fO+ca 190O+cb 191O+1 192V 193O+cd 194O+cf 195V 196O+d3 197O+d1 198O+1",
     "199V 19cO+d3 19dO+d5 19eV 19fO+d6 1a0A 1a6O+da 1a7O+1 1a8V 1a9O+da 1aaV 1acO+1 1adV 1aeO+da",
     "1afO+1 1b0V 1b1O+d9 1b3A 1b7O+db 1b8O+1 1b9V 1bcO+1 1bdV 1c4M64_17e 1c7M6c_6a 1caM6e_6a 1cdA",
     "1dbO+1 1dcV 1deA 1eeO+1 1efV 1f1M64_7a 1f4O+1 1f5V 1f6O-61 1f7O-38 1f8A 220O-82 221V 222A",
     "232O+1 233V 23aO+2a2b 23bO+1 23cV 23dO-a3 23eO+2a28 23fV 241O+1 242V 243O-c3 244O+45 245O+47",
     "246A 24eO+1 24fV 2b0O-248 2b1O-4b 2b2O-248 2b3O-241 2b4O-3b 2b5O-3a 2b6O-35 2b7O-240",
     "2b8O-23f 2b9V 2d8M20_306 2d9M20_307 2daM20_30a 2dbM20_328 2dcM20_303 2ddM20_30b 2deV 2e0O-7d",
     "2e1O-275 2e2O-26f 2e3O-26b 2e4O-4f 2e5V 340O-40 342V 343O-30 344M308_301 345O+74 346V 34fI",
     "350V 370A 374O-bb 375V 376O+1 377V 378X 37aM20_3b9 37bV 37eO-343 37fO+74 380X 384M20_301",
     "385M20_308_301 386O+26 387O-2d0 388O+25 38bX 38cO+40 38dX 38eO+3f 390V 391O+20 3a2X 3a3O+20",
     "3acV 3c2D 3c3V 3cfO+8 3d0O-1e 3d1O-19 3d2O-d 3d3O-6 3d4O-9 3d5O-f 3d6O-16 3d7V 3d8A 3f0O-36",
     "3f1O-30 3f2O-2f 3f3V 3f4O-3c 3f5O-40 3f6V 3f7O+1 3f8V 3f9O-36 3faO+1 3fbV 3fdO-82 400O+50",
     "410O+20 430V 460A 480O+1 481V 48aA 4c0O+f 4c1A 4cdO+1 4ceV 4d0A 530X 531O+30 557X 559V",
     "587M565_582 588V 58bX 58dV 590X 591V 5c8X 5d0V 5ebX 5efV 5f5X 606V 61cX 61dV 675M627_674",
     "676M648_674 677M6c7_674 678M64a_674 679V 6ddX 6deV 70eX 710V 74bX 74dV 7b2X 7c0V 7fbX 7fdV",
     "82eX 830V 83fX 840V 85cX 85eV 85fX 860V 86bX 870V 890X 897V 8e2X 8e3V 958M915_93c",
     "959M916_93c 95aM917_93c 95bM91c_93c 95cM921_93c 95dM922_93c 95eM92b_93c 95fM92f_93c 960V",
     "984X 985V 98dX 98fV 991X 993V 9a9X 9aaV 9b1X 9b2V 9b3X 9b6V 9baX 9bcV 9c5X 9c7V 9c9X 9cbV",
     "9cfX 9d7V 9d8X 9dcM9a1_9bc 9ddM9a2_9bc 9deX 9dfM9af_9bc 9e0V 9e4X 9e6V 9ffX a01V a04X a05V",
     "a0bX a0fV a11X a13V a29X a2aV a31X a32V a33Ma32_a3c a34X a35V a36Ma38_a3c a37X a38V a3aX",
     "a3cV a3dX a3eV a43X a47V a49X a4bV a4eX a51V a52X a59Ma16_a3c a5aMa17_a3c a5bMa1c_a3c a5cV",
     "a5dX a5eMa2b_a3c a5fX a66V a77X a81V a84X a85V a8eX a8fV a92X a93V aa9X aaaV ab1X ab2V ab4X",
     "ab5V abaX abcV ac6X ac7V acaX acbV aceX ad0V ad1X ae0V ae4X ae6V af2X af9V b00X b01V b04X",
     "b05V b0dX b0fV b11X b13V b29X b2aV b31X b32V b34X b35V b3aX b3cV b45X b47V b49X b4bV b4eX",
     "b55V b58X b5cMb21_b3c b5dMb22_b3c b5eX b5fV b64X b66V b78X b82V b84X b85V b8bX b8eV b91X",
     "b92V b96X b99V b9bX b9cV b9dX b9eV ba0X ba3V ba5X ba8V babX baeV bbaX bbeV bc3X bc6V bc9X",
     "bcaV bceX bd0V bd1X bd7V bd8X be6V bfbX c00V c0dX c0eV c11X c12V c29X c2aV c3aX c3cV c45X",
     "c46V c49X c4aV c4eX c55V c57X c58V c5bX c5cV c5eX c60V c64X c66V c70X c77V c8dX c8eV c91X",
     "c92V ca9X caaV cb4X cb5V cbaX cbcV cc5X cc6V cc9X ccaV cceX cd5V cd7X cdcV cdfX ce0V ce4X",
     "ce6V cf0X cf1V cf4X d00V d0dX d0eV d11X d12V d45X d46V d49X d4aV d50X d54V d64X d66V d80X",
     "d81V d84X d85V d97X d9aV db2X db3V dbcX dbdV dbeX dc0V dc7X dcaV dcbX dcfV dd5X dd6V dd7X",
     "dd8V de0X de6V df0X df2V df5X e01V e33Me4d_e32 e34V e3bX e3fV e5cX e81V e83X e84V e85X e86V",
     "e8bX e8cV ea4X ea5V ea6X ea7V eb3Mecd_eb2 eb4V ebeX ec0V ec5X ec6V ec7X ec8V ecfX ed0V edaX",
     "edcMeab_e99 eddMeab_ea1 edeV ee0X f00V f0cO-1 f0dV f43Mf42_fb7 f44V f48X f49V f4dMf4c_fb7",
     "f4eV f52Mf51_fb7 f53V f57Mf56_fb7 f58V f5cMf5b_fb7 f5dV f69Mf40_fb5 f6aV f6dX f71V",
     "f73Mf71_f72 f74V f75Mf71_f74 f76Mfb2_f80 f77Mfb2_f71_f80 f78Mfb3_f80 f79Mfb3_f71_f80 f7aV",
     "f81Mf71_f80 f82V f93Mf92_fb7 f94V f98X f99V f9dMf9c_fb7 f9eV fa2Mfa1_fb7 fa3V fa7Mfa6_fb7",
     "fa8V facMfab_fb7 fadV fb9Mf90_fb5 fbaV fbdX fbeV fcdX fceV fdbX 1000V 10a0O+1c60 10c6X",
     "10c7O+1c60 10c8X 10cdO+1c60 10ceX 10d0V 10fcO-20 10fdV 115fI 1161V 1249X 124aV 124eX 1250V",
     "1257X 1258V 1259X 125aV 125eX 1260V 1289X 128aV 128eX 1290V 12b1X 12b2V 12b6X 12b8V 12bfX",
     "12c0V 12c1X 12c2V 12c6X 12c8V 12d7X 12d8V 1311X 1312V 1316X 1318V 135bX 135dV 137dX 1380V",
     "139aX 13a0V 13f6X 13f8O-8 13feX 1400V 1680X 1681V 169dX 16a0V 16f9X 1700V 1716X 171fV 1737X",
     "1740V 1754X 1760V 176dX 176eV 1771X 1772V 1774X 1780V 17b4I 17b6V 17deX 17e0V 17eaX 17f0V",
     "17faX 1800V 180bI 1810V 181aX 1820V 1879X 1880V 18abX 18b0V 18f6X 1900V 191fX 1920V 192cX",
     "1930V 193cX 1940V 1941X 1944V 196eX 1970V 1975X 1980V 19acX 19b0V 19caX 19d0V 19dbX 19deV",
     "1a1cX 1a1eV 1a5fX 1a60V 1a7dX 1a7fV 1a8aX 1a90V 1a9aX 1aa0V 1aaeX 1ab0V 1adeX 1ae0V 1aecX",
     "1b00V 1b4dX 1b4eV 1bf4X 1bfcV 1c38X 1c3bV 1c4aX 1c4dV 1c80O-184e 1c81O-184d 1c82O-1844",
     "1c83O-1842 1c84M442 1c86O-183c 1c87O-1824 1c88O+89c3 1c89O+1 1c8aV 1c8bX 1c90O-bc0 1cbbX",
     "1cbdO-bc0 1cc0V 1cc8X 1cd0V 1cfbX 1d00V 1d2cO-1ccb 1d2dO-1c47 1d2eO-1ccc 1d2fV 1d30O-1ccc",
     "1d32O-1b55 1d33O-1ccc 1d3bV 1d3cO-1ccd 1d3dO-1b1a 1d3eO-1cce 1d3fO-1ccd 1d40O-1ccc",
     "1d42O-1ccb 1d43O-1ce2 1d44O-1af4 1d46O-44 1d47O-1ce5 1d48O-1ce4 1d4aO-1af1 1d4bO-1af0",
     "1d4dO-1ce6 1d4eV 1d4fO-1ce4 1d50O-1ce3 1d51O-1c06 1d52O-1ce3 1d53O-1aff 1d54O-3e 1d56O-1ce6",
     "1d57O-1ce3 1d59O-3c 1d5aO-1aeb 1d5bO-1ce5 1d5cO-37 1d5dO-19ab 1d60O-199a 1d62O-1cf9",
     "1d63O-1cf1 1d64O-1cef 1d66O-19b4 1d68O-19a7 1d69O-19a3 1d6bV 1d78O-193b 1d79V 1d9bO-1b49",
     "1d9cO-1d39 1d9dO-1b48 1d9eO-1cae 1d9fO-1b43 1da0O-1d3a 1da1O-1b42 1da2O-1b41 1da3O-1b3e",
     "1da4O-1b3c 1da7O-2c 1da8O-1b0b 1da9O-1b3c 1daaO-25 1dabO-1b0c 1dacO-1b3b 1dadO-1b3d",
     "1daeO-1b3c 1db2O-1b3a 1db3O-1b31 1db5O-1c0a 1db6O-1b2d 1db8O-9c 1db9O-1b2e 1dbbO-1d41",
     "1dbcO-1b2c 1dbfO-1a07 1dc0V 1e00A 1e94O+1 1e95V 1e9aM61_2be 1e9bO-3a 1e9cV 1e9eO-1dbf 1e9fV",
     "1ea0A 1efeO+1 1effV 1f08O-8 1f10V 1f16X 1f18O-8 1f1eX 1f20V 1f28O-8 1f30V 1f38O-8 1f40V",
     "1f46X 1f48O-8 1f4eX 1f50V 1f58X 1f59O-8 1f5aX 1f5bO-8 1f5cX 1f5dO-8 1f5eX 1f5fO-8 1f60V",
     "1f68O-8 1f70V 1f71O-1bc5 1f72V 1f73O-1bc6 1f74V 1f75O-1bc7 1f76V 1f77O-1bc8 1f78V 1f79O-1bad",
     "1f7aV 1f7bO-1bae 1f7cV 1f7dO-1baf 1f7eX 1f80M1f00_3b9 1f81M1f01_3b9 1f82M1f02_3b9",
     "1f83M1f03_3b9 1f84M1f04_3b9 1f85M1f05_3b9 1f86M1f06_3b9 1f87M1f07_3b9 1f88M1f00_3b9",
     "1f89M1f01_3b9 1f8aM1f02_3b9 1f8bM1f03_3b9 1f8cM1f04_3b9 1f8dM1f05_3b9 1f8eM1f06_3b9",
     "1f8fM1f07_3b9 1f90M1f20_3b9 1f91M1f21_3b9 1f92M1f22_3b9 1f93M1f23_3b9 1f94M1f24_3b9",
     "1f95M1f25_3b9 1f96M1f26_3b9 1f97M1f27_3b9 1f98M1f20_3b9 1f99M1f21_3b9 1f9aM1f22_3b9",
     "1f9bM1f23_3b9 1f9cM1f24_3b9 1f9dM1f25_3b9 1f9eM1f26_3b9 1f9fM1f27_3b9 1fa0M1f60_3b9",
     "1fa1M1f61_3b9 1fa2M1f62_3b9 1fa3M1f63_3b9 1fa4M1f64_3b9 1fa5M1f65_3b9 1fa6M1f66_3b9",
     "1fa7M1f67_3b9 1fa8M1f60_3b9 1fa9M1f61_3b9 1faaM1f62_3b9 1fabM1f63_3b9 1facM1f64_3b9",
     "1fadM1f65_3b9 1faeM1f66_3b9 1fafM1f67_3b9 1fb0V 1fb2M1f70_3b9 1fb3M3b1_3b9 1fb4M3ac_3b9",
     "1fb5X 1fb6V 1fb7M1fb6_3b9 1fb8O-8 1fbaO-4a 1fbbO-1c0f 1fbcM3b1_3b9 1fbdM20_313 1fbeO-1c05",
     "1fbfM20_313 1fc0M20_342 1fc1M20_308_342 1fc2M1f74_3b9 1fc3M3b7_3b9 1fc4M3ae_3b9 1fc5X 1fc6V",
     "1fc7M1fc6_3b9 1fc8O-56 1fc9O-1c1c 1fcaO-56 1fcbO-1c1d 1fccM3b7_3b9 1fcdM20_313_300",
     "1fceM20_313_301 1fcfM20_313_342 1fd0V 1fd3O-1c43 1fd4X 1fd6V 1fd8O-8 1fdaO-64 1fdbO-1c2c",
     "1fdcX 1fddM20_314_300 1fdeM20_314_301 1fdfM20_314_342 1fe0V 1fe3O-1c33 1fe4V 1fe8O-8",
     "1feaO-70 1febO-1c1e 1fecO-7 1fedM20_308_300 1feeM20_308_301 1fefO-1f8f 1ff0X 1ff2M1f7c_3b9",
     "1ff3M3c9_3b9 1ff4M3ce_3b9 1ff5X 1ff6V 1ff7M1ff6_3b9 1ff8O-80 1ff9O-1c2d 1ffaO-7e 1ffbO-1c2d",
     "1ffcM3c9_3b9 1ffdM20_301 1ffeM20_314 1fffX 2000M20 200bI 200cD 200eX 2010V 2011O-1 2012V",
     "2017M20_333 2018V 2024X 2027V 2028X 202fO-200f 2030V 2033M2032_2032 2034M2032_2032_2032",
     "2035V 2036M2035_2035 2037M2035_2035_2035 2038V 203cM21_21 203dV 203eM20_305 203fV 2047M3f_3f",
     "2048M3f_21 2049M21_3f 204aV 2057M2032_2032_2032_2032 2058V 205fO-203f 2060I 2065X 206aI",
     "2070O-2040 2071O-2008 2072X 2074O-2040 207aO-204f 207bO+197 207cO-203f 207dO-2055 207fO-2011",
     "2080O-2050 208aO-205f 208bO+187 208cO-204f 208dO-2065 208fX 2090O-202f 2091O-202c 2092O-2023",
     "2093O-201b 2094O-1e3b 2095O-202d 2096O-202b 209aO-202a 209bO-2028 209dX 20a0V 20a8M72_73",
     "20a9V 20c2X 20d0V 20f1X 2100M61_2f_63 2101M61_2f_73 2102O-209f 2103Mb0_63 2104V",
     "2105M63_2f_6f 2106M63_2f_75 2107O-1eac 2108V 2109Mb0_66 210aO-20a3 210bM68 210fO-1fe8",
     "2110M69 2112M6c 2114V 2115O-20a7 2116M6e_6f 2117V 2119O-20a9 211bM72 211eV 2120M73_6d",
     "2121M74_65_6c 2122M74_6d 2123V 2124O-20aa 2125V 2126O-1d5d 2127V 2128O-20ae 2129V 212aO-20bf",
     "212bO-2046 212cO-20ca 212eV 212fM65 2131O-20cb 2132O+1c 2133O-20c6 2134O-20c5 2135O-1b65",
     "2139O-20d0 213aV 213bM66_61_78 213cO-1d7c 213dM3b3 213fO-1d7f 2140O+d1 2141V 2145M64",
     "2147O-20e2 2148O-20df 214aV 2150M31_2044_37 2151M31_2044_39 2152M31_2044_31_30",
     "2153M31_2044_33 2154M32_2044_33 2155M31_2044_35 2156M32_2044_35 2157M33_2044_35",
     "2158M34_2044_35 2159M31_2044_36 215aM35_2044_36 215bM31_2044_38 215cM33_2044_38",
     "215dM35_2044_38 215eM37_2044_38 215fM31_2044 2160O-20f7 2161M69_69 2162M69_69_69 2163M69_76",
     "2164O-20ee 2165M76_69 2166M76_69_69 2167M76_69_69_69 2168M69_78 2169O-20f1 216aM78_69",
     "216bM78_69_69 216cO-2100 216dO-210a 216fO-2102 2170O-2107 2171M69_69 2172M69_69_69",
     "2173M69_76 2174O-20fe 2175M76_69 2176M76_69_69 2177M76_69_69_69 2178M69_78 2179O-2101",
     "217aM78_69 217bM78_69_69 217cO-2110 217dO-211a 217fO-2112 2180V 2183O+1 2184V",
     "2189M30_2044_33 218aV 218cX 2190V 222cM222b_222b 222dM222b_222b_222b 222eV 222fM222e_222e",
     "2230M222e_222e_222e 2231V 2329O+cdf 232bV 242aX 2440V 244bX 2460O-242f 2469M31_30 246aM31_31",
     "246bM31_32 246cM31_33 246dM31_34 246eM31_35 246fM31_36 2470M31_37 2471M31_38 2472M31_39",
     "2473M32_30 2474M28_31_29 2475M28_32_29 2476M28_33_29 2477M28_34_29 2478M28_35_29",
     "2479M28_36_29 247aM28_37_29 247bM28_38_29 247cM28_39_29 247dM28_31_30_29 247eM28_31_31_29",
     "247fM28_31_32_29 2480M28_31_33_29 2481M28_31_34_29 2482M28_31_35_29 2483M28_31_36_29",
     "2484M28_31_37_29 2485M28_31_38_29 2486M28_31_39_29 2487M28_32_30_29 2488X 249cM28_61_29",
     "249dM28_62_29 249eM28_63_29 249fM28_64_29 24a0M28_65_29 24a1M28_66_29 24a2M28_67_29",
     "24a3M28_68_29 24a4M28_69_29 24a5M28_6a_29 24a6M28_6b_29 24a7M28_6c_29 24a8M28_6d_29",
     "24a9M28_6e_29 24aaM28_6f_29 24abM28_70_29 24acM28_71_29 24adM28_72_29 24aeM28_73_29",
     "24afM28_74_29 24b0M28_75_29 24b1M28_76_29 24b2M28_77_29 24b3M28_78_29 24b4M28_79_29",
     "24b5M28_7a_29 24b6O-2455 24d0O-246f 24eaO-24ba 24ebV 2a0cM222b_222b_222b_222b 2a0dV",
     "2a74M3a_3a_3d 2a75M3d_3d 2a76M3d_3d_3d 2a77V 2adcM2add_338 2addV 2b74X 2b76V 2c00O+30 2c30V",
     "2c60O+1 2c61V 2c62O-29f7 2c63O-ee6 2c64O-29e7 2c65V 2c67A 2c6dO-2a1c 2c6eO-29fd 2c6fO-2a1f",
     "2c70O-2a1e 2c71V 2c72O+1 2c73V 2c75O+1 2c76V 2c7cO-2c12 2c7dO-2c07 2c7eO-2a3f 2c80A 2ce2O+1",
     "2ce3V 2cebO+1 2cecV 2cedO+1 2ceeV 2cf2O+1 2cf3V 2cf4X 2cf9V 2d26X 2d27V 2d28X 2d2dV 2d2eX",
     "2d30V 2d68X 2d6fO-e 2d70V 2d71X 2d7fV 2d97X 2da0V 2da7X 2da8V 2dafX 2db0V 2db7X 2db8V 2dbfX",
     "2dc0V 2dc7X 2dc8V 2dcfX 2dd0V 2dd7X 2dd8V 2ddfX 2de0V 2e5eX 2e80V 2e9aX 2e9bV 2e9fO+3d2e",
     "2ea0V 2ef3O+70ac 2ef4X 2f00O+1f00 2f01O+1f27 2f02O+1f34 2f03O+1f3c 2f04O+1f55 2f05O+1f80",
     "2f06O+1f86 2f07O+1f99 2f08O+1fb2 2f09O+2236 2f0aO+225b 2f0bO+2260 2f0cO+2276 2f0dO+2289",
     "2f0eO+229d 2f0fO+22d1 2f10O+22e5 2f11O+22ef 2f12O+2389 2f13O+23e6 2f14O+2401 2f15O+2405",
     "2f16O+2422 2f17O+242a 2f18O+2444 2f19O+2450 2f1aO+2468 2f1bO+249b 2f1cO+24ac 2f1dO+24c6",
     "2f1eO+27b9 2f1fO+2800 2f20O+29cb 2f21O+29e1 2f22O+29e8 2f23O+29f2 2f24O+2a03 2f25O+2a4e",
     "2f26O+2c2a 2f27O+2c59 2f28O+2cd0 2f29O+2ce6 2f2aO+2cf8 2f2bO+2d0d 2f2cO+2d42 2f2dO+2d44",
     "2f2eO+2ead 2f2fO+2eb6 2f30O+2ec1 2f31O+2ecd 2f32O+2f40 2f33O+2f47 2f34O+2f4b 2f35O+2fbf",
     "2f36O+2fc8 2f37O+2fd4 2f38O+2fdb 2f39O+3017 2f3aO+3027 2f3bO+3038 2f3cO+3087 2f3dO+32cb",
     "2f3eO+32f8 2f3fO+330c 2f40O+35ef 2f41O+35f3 2f42O+3645 2f43O+3654 2f44O+3660 2f45O+3674",
     "2f46O+369a 2f47O+369e 2f48O+37a8 2f49O+37bf 2f4aO+37de 2f4bO+3bd5 2f4cO+3c16 2f4dO+3c2c",
     "2f4eO+3c65 2f4fO+3c7c 2f50O+3c84 2f51O+3c8a 2f52O+3cbd 2f53O+3cc1 2f54O+3ce0 2f55O+4116",
     "2f56O+42d4 2f57O+42df 2f58O+42e3 2f59O+42e6 2f5aO+42ed 2f5bO+42fe 2f5cO+42ff 2f5dO+434f",
     "2f5eO+4426 2f5fO+442a 2f60O+457c 2f61O+4585 2f62O+45b6 2f63O+45bc 2f64O+45c4 2f65O+45cb",
     "2f66O+4625 2f67O+462b 2f68O+470e 2f69O+4714 2f6aO+4744 2f6bO+4754 2f6cO+4782 2f6dO+486e",
     "2f6eO+4874 2f6fO+4884 2f70O+49ca 2f71O+4a47 2f72O+4a4c 2f73O+4b01 2f74O+4b57 2f75O+4b84",
     "2f76O+4cfd 2f77O+4d81 2f78O+4fbe 2f79O+4fd8 2f7aO+5010 2f7bO+5042 2f7cO+5085 2f7dO+508f",
     "2f7eO+5094 2f7fO+50b4 2f80O+50ff 2f81O+5108 2f82O+5261 2f83O+5267 2f84O+526f 2f85O+5277",
     "2f86O+5286 2f87O+5294 2f88O+5297 2f89O+52e5 2f8aO+52e8 2f8bO+52ed 2f8cO+56c1 2f8dO+56de",
     "2f8eO+58b2 2f8fO+58bd 2f90O+58d3 2f91O+59ed 2f92O+59f9 2f93O+5a3f 2f94O+5a6c 2f95O+5ca2",
     "2f96O+5cb0 2f97O+5cbe 2f98O+5ce0 2f99O+5d04 2f9aO+5dca 2f9bO+5dd5 2f9cO+5e17 2f9dO+5f0e",
     "2f9eO+5f2c 2f9fO+5ffc 2fa0O+6010 2fa1O+6014 2fa2O+60ef 2fa3O+61a6 2fa4O+6222 2fa5O+6227",
     "2fa6O+622b 2fa7O+65d0 2fa8O+65d8 2fa9O+6673 2faaO+670c 2fabO+670e 2facO+673c 2fadO+67a4",
     "2faeO+67b0 2fafO+67b3 2fb0O+67b9 2fb1O+681a 2fb2O+683b 2fb3O+6840 2fb4O+684d 2fb5O+68f3",
     "2fb6O+6925 2fb7O+6928 2fb8O+69de 2fb9O+69e0 2fbaO+69f2 2fbbO+6aed 2fbcO+6b1c 2fbdO+6b22",
     "2fbeO+6b67 2fbfO+6b70 2fc0O+6b72 2fc1O+6b7b 2fc2O+6b98 2fc3O+6d22 2fc4O+6eb1 2fc5O+6eba",
     "2fc6O+6edf 2fc7O+6ef4 2fc8O+6efb 2fc9O+6f04 2fcaO+6f07 2fcbO+6f2e 2fccO+6f31 2fcdO+6f41",
     "2fceO+6f45 2fcfO+6f51 2fd0O+6f6b 2fd1O+6f79 2fd2O+6f80 2fd3O+6fba 2fd4O+6fc8 2fd5O+6fcb",
     "2fd6X 3000O-2fe0 3001V 3002O-2fd4 3003V 3036O-24 3037V 3038O+2309 3039O+230b 303bV 3040X",
     "3041V 3097X 3099V 309bM20_3099 309cM20_309a 309dV 309fM3088_308a 30a0V 30ffM30b3_30c8 3100X",
     "3105V 3130X 3131O-2031 3133O-1f89 3134O-2032 3135O-1f89 3137O-2034 313aO-1f8a 3140O-2026",
     "3141O-203b 3144O-2023 3145O-203c 314fO-1fee 3164I 3165O-2051 3167O-1fa0 3169O-1f9d",
     "316aO-1f9c 316bO-1f98 316cO-1f95 316dO-1f94 316eO-2052 316fO-1f92 3170O-1f91 3171O-2054",
     "3173O-2053 3174O-2052 3176O-204f 3177O-204e 3178O-204d 317dO-204b 317eO-2048 317fO-203f",
     "3180O-2039 3181O-2035 3182O-1f91 3184O-202d 3187O-2003 3189O-2001 318aO-1ff9 318cO-1ff8",
     "318dO-1fef 318eO-1fed 318fX 3190V 3192O+1c6e 3193O+1cf9 3194O+1c75 3195O+2546 3196O+1c74",
     "3197O+1c96 3198O+1c73 3199O+4399 319aO+1cbf 319bO+1c7e 319cO+1c65 319dO+278c 319eO+2592",
     "319fO+1d1b 31a0V 31e6X 31f0V 3200M28_1100_29 3201M28_1102_29 3202M28_1103_29 3203M28_1105_29",
     "3204M28_1106_29 3205M28_1107_29 3206M28_1109_29 3207M28_110b_29 3208M28_110c_29",
     "3209M28_110e_29 320aM28_110f_29 320bM28_1110_29 320cM28_1111_29 320dM28_1112_29",
     "320eM28_ac00_29 320fM28_b098_29 3210M28_b2e4_29 3211M28_b77c_29 3212M28_b9c8_29",
     "3213M28_bc14_29 3214M28_c0ac_29 3215M28_c544_29 3216M28_c790_29 3217M28_cc28_29",
     "3218M28_ce74_29 3219M28_d0c0_29 321aM28_d30c_29 321bM28_d558_29 321cM28_c8fc_29",
     "321dM28_c624_c804_29 321eM28_c624_d6c4_29 321fX 3220M28_4e00_29 3221M28_4e8c_29",
     "3222M28_4e09_29 3223M28_56db_29 3224M28_4e94_29 3225M28_516d_29 3226M28_4e03_29",
     "3227M28_516b_29 3228M28_4e5d_29 3229M28_5341_29 322aM28_6708_29 322bM28_706b_29",
     "322cM28_6c34_29 322dM28_6728_29 322eM28_91d1_29 322fM28_571f_29 3230M28_65e5_29",
     "3231M28_682a_29 3232M28_6709_29 3233M28_793e_29 3234M28_540d_29 3235M28_7279_29",
     "3236M28_8ca1_29 3237M28_795d_29 3238M28_52b4_29 3239M28_4ee3_29 323aM28_547c_29",
     "323bM28_5b66_29 323cM28_76e3_29 323dM28_4f01_29 323eM28_8cc7_29 323fM28_5354_29",
     "3240M28_796d_29 3241M28_4f11_29 3242M28_81ea_29 3243M28_81f3_29 3244O+230b 3245O+2c37",
     "3246O+3341 3247O+4948 3248V 3250M70_74_65 3251M32_31 3252M32_32 3253M32_33 3254M32_34",
     "3255M32_35 3256M32_36 3257M32_37 3258M32_38 3259M32_39 325aM33_30 325bM33_31 325cM33_32",
     "325dM33_33 325eM33_34 325fM33_35 3260O-2160 3261O-215f 3263O-215e 3266O-215d 3267O-215c",
     "3269O-215b 326eO+7992 326fO+7e29 3270O+8074 3271O+850b 3272O+8756 3273O+89a1 3274O+8e38",
     "3275O+92cf 3276O+951a 3277O+99b1 3278O+9bfc 3279O+9e47 327aO+a092 327bO+a2dd 327cMcc38_ace0",
     "327dMc8fc_c758 327eO+9432 327fV 3280O+1b80 3281O+1c0b 3282O+1b87 3283O+2458 3284O+1c10",
     "3285O+1ee8 3286O+1b7d 3287O+1ee4 3288O+1bd5 3289O+20b8 328aO+347e 328bO+3de0 328cO+39a8",
     "328dO+349b 328eO+5f43 328fO+2490 3290O+3355 3291O+3599 3292O+3477 3293O+46ab 3294O+2179",
     "3295O+3fe4 3296O+5a0b 3297O+46c6 3298O+201c 3299O+473f 329aO+429d 329bO+26d8 329cO+5dcd",
     "329dO+1e8d 329eO+20d2 329fO+3a49 32a0O+6565 32a1O+1c70 32a2O+1ef7 32a3O+38c0 32a4O+1b66",
     "32a5O+1b88 32a6O+1b65 32a7O+2b3f 32a8O+214b 32a9O+2092 32aaO+28ed 32abO+28bb 32acO+4437",
     "32adO+1c54 32aeO+5a19 32afO+20a5 32b0O+266c 32b1M33_36 32b2M33_37 32b3M33_38 32b4M33_39",
     "32b5M34_30 32b6M34_31 32b7M34_32 32b8M34_33 32b9M34_34 32baM34_35 32bbM34_36 32bcM34_37",
     "32bdM34_38 32beM34_39 32bfM35_30 32c0M31_6708 32c1M32_6708 32c2M33_6708 32c3M34_6708",
     "32c4M35_6708 32c5M36_6708 32c6M37_6708 32c7M38_6708 32c8M39_6708 32c9M31_30_6708",
     "32caM31_31_6708 32cbM31_32_6708 32ccM68_67 32cdM65_72_67 32ceM65_76 32cfM6c_74_64 32d0O-22e",
     "32d1O-22d 32d2O-22c 32d3O-22b 32d4O-22a 32d6O-229 32d7O-228 32d8O-227 32d9O-226 32daO-225",
     "32dbO-224 32dcO-223 32ddO-222 32deO-221 32dfO-220 32e0O-21f 32e1O-21d 32e2O-21c 32e3O-21b",
     "32e4O-21a 32eaO-218 32ebO-216 32ecO-214 32edO-212 32eeO-210 32f3O-20f 32f4O-20e 32f5O-20d",
     "32fbO-20c 32ffM4ee4_548c 3300M30a2_30d1_30fc_30c8 3301M30a2_30eb_30d5_30a1",
     "3302M30a2_30f3_30da_30a2 3303M30a2_30fc_30eb 3304M30a4_30cb_30f3_30b0 3305M30a4_30f3_30c1",
     "3306M30a6_30a9_30f3 3307M30a8_30b9_30af_30fc_30c9 3308M30a8_30fc_30ab_30fc",
     "3309M30aa_30f3_30b9 330aM30aa_30fc_30e0 330bM30ab_30a4_30ea 330cM30ab_30e9_30c3_30c8",
     "330dM30ab_30ed_30ea_30fc 330eM30ac_30ed_30f3 330fM30ac_30f3_30de 3310M30ae_30ac",
     "3311M30ae_30cb_30fc 3312M30ad_30e5_30ea_30fc 3313M30ae_30eb_30c0_30fc 3314M30ad_30ed",
     "3315M30ad_30ed_30b0_30e9_30e0 3316M30ad_30ed_30e1_30fc_30c8_30eb",
     "3317M30ad_30ed_30ef_30c3_30c8 3318M30b0_30e9_30e0 3319M30b0_30e9_30e0_30c8_30f3",
     "331aM30af_30eb_30bc_30a4_30ed 331bM30af_30ed_30fc_30cd 331cM30b1_30fc_30b9",
     "331dM30b3_30eb_30ca 331eM30b3_30fc_30dd 331fM30b5_30a4_30af_30eb",
     "3320M30b5_30f3_30c1_30fc_30e0 3321M30b7_30ea_30f3_30b0 3322M30bb_30f3_30c1",
     "3323M30bb_30f3_30c8 3324M30c0_30fc_30b9 3325M30c7_30b7 3326M30c9_30eb 3327M30c8_30f3",
     "3328M30ca_30ce 3329M30ce_30c3_30c8 332aM30cf_30a4_30c4 332bM30d1_30fc_30bb_30f3_30c8",
     "332cM30d1_30fc_30c4 332dM30d0_30fc_30ec_30eb 332eM30d4_30a2_30b9_30c8_30eb",
     "332fM30d4_30af_30eb 3330M30d4_30b3 3331M30d3_30eb 3332M30d5_30a1_30e9_30c3_30c9",
     "3333M30d5_30a3_30fc_30c8 3334M30d6_30c3_30b7_30a7_30eb 3335M30d5_30e9_30f3",
     "3336M30d8_30af_30bf_30fc_30eb 3337M30da_30bd 3338M30da_30cb_30d2 3339M30d8_30eb_30c4",
     "333aM30da_30f3_30b9 333bM30da_30fc_30b8 333cM30d9_30fc_30bf 333dM30dd_30a4_30f3_30c8",
     "333eM30dc_30eb_30c8 333fM30db_30f3 3340M30dd_30f3_30c9 3341M30db_30fc_30eb",
     "3342M30db_30fc_30f3 3343M30de_30a4_30af_30ed 3344M30de_30a4_30eb 3345M30de_30c3_30cf",
     "3346M30de_30eb_30af 3347M30de_30f3_30b7_30e7_30f3 3348M30df_30af_30ed_30f3 3349M30df_30ea",
     "334aM30df_30ea_30d0_30fc_30eb 334bM30e1_30ac 334cM30e1_30ac_30c8_30f3",
     "334dM30e1_30fc_30c8_30eb 334eM30e4_30fc_30c9 334fM30e4_30fc_30eb 3350M30e6_30a2_30f3",
     "3351M30ea_30c3_30c8_30eb 3352M30ea_30e9 3353M30eb_30d4_30fc 3354M30eb_30fc_30d6_30eb",
     "3355M30ec_30e0 3356M30ec_30f3_30c8_30b2_30f3 3357M30ef_30c3_30c8 3358M30_70b9 3359M31_70b9",
     "335aM32_70b9 335bM33_70b9 335cM34_70b9 335dM35_70b9 335eM36_70b9 335fM37_70b9 3360M38_70b9",
     "3361M39_70b9 3362M31_30_70b9 3363M31_31_70b9 3364M31_32_70b9 3365M31_33_70b9 3366M31_34_70b9",
     "3367M31_35_70b9 3368M31_36_70b9 3369M31_37_70b9 336aM31_38_70b9 336bM31_39_70b9",
     "336cM32_30_70b9 336dM32_31_70b9 336eM32_32_70b9 336fM32_33_70b9 3370M32_34_70b9",
     "3371M68_70_61 3372M64_61 3373M61_75 3374M62_61_72 3375M6f_76 3376M70_63 3377M64_6d",
     "3378M64_6d_32 3379M64_6d_33 337aM69_75 337bM5e73_6210 337cM662d_548c 337dM5927_6b63",
     "337eM660e_6cbb 337fM682a_5f0f_4f1a_793e 3380M70_61 3381M6e_61 3382M3bc_61 3383M6d_61",
     "3384M6b_61 3385M6b_62 3386M6d_62 3387M67_62 3388M63_61_6c 3389M6b_63_61_6c 338aM70_66",
     "338bM6e_66 338cM3bc_66 338dM3bc_67 338eM6d_67 338fM6b_67 3390M68_7a 3391M6b_68_7a",
     "3392M6d_68_7a 3393M67_68_7a 3394M74_68_7a 3395M3bc_6c 3396M6d_6c 3397M64_6c 3398M6b_6c",
     "3399M66_6d 339aM6e_6d 339bM3bc_6d 339cM6d_6d 339dM63_6d 339eM6b_6d 339fM6d_6d_32",
     "33a0M63_6d_32 33a1M6d_32 33a2M6b_6d_32 33a3M6d_6d_33 33a4M63_6d_33 33a5M6d_33 33a6M6b_6d_33",
     "33a7M6d_2215_73 33a8M6d_2215_73_32 33a9M70_61 33aaM6b_70_61 33abM6d_70_61 33acM67_70_61",
     "33adM72_61_64 33aeM72_61_64_2215_73 33afM72_61_64_2215_73_32 33b0M70_73 33b1M6e_73",
     "33b2M3bc_73 33b3M6d_73 33b4M70_76 33b5M6e_76 33b6M3bc_76 33b7M6d_76 33b8M6b_76 33b9M6d_76",
     "33baM70_77 33bbM6e_77 33bcM3bc_77 33bdM6d_77 33beM6b_77 33bfM6d_77 33c0M6b_3c9 33c1M6d_3c9",
     "33c2X 33c3M62_71 33c4M63_63 33c5M63_64 33c6M63_2215_6b_67 33c7X 33c8M64_62 33c9M67_79",
     "33caM68_61 33cbM68_70 33ccM69_6e 33cdM6b_6b 33ceM6b_6d 33cfM6b_74 33d0M6c_6d 33d1M6c_6e",
     "33d2M6c_6f_67 33d3M6c_78 33d4M6d_62 33d5M6d_69_6c 33d6M6d_6f_6c 33d7M70_68 33d8X",
     "33d9M70_70_6d 33daM70_72 33dbM73_72 33dcM73_76 33ddM77_62 33deM76_2215_6d 33dfM61_2215_6d",
     "33e0M31_65e5 33e1M32_65e5 33e2M33_65e5 33e3M34_65e5 33e4M35_65e5 33e5M36_65e5 33e6M37_65e5",
     "33e7M38_65e5 33e8M39_65e5 33e9M31_30_65e5 33eaM31_31_65e5 33ebM31_32_65e5 33ecM31_33_65e5",
     "33edM31_34_65e5 33eeM31_35_65e5 33efM31_36_65e5 33f0M31_37_65e5 33f1M31_38_65e5",
     "33f2M31_39_65e5 33f3M32_30_65e5 33f4M32_31_65e5 33f5M32_32_65e5 33f6M32_33_65e5",
     "33f7M32_34_65e5 33f8M32_35_65e5 33f9M32_36_65e5 33faM32_37_65e5 33fbM32_38_65e5",
     "33fcM32_39_65e5 33fdM33_30_65e5 33feM33_31_65e5 33ffM67_61_6c 3400V a48dX a490V a4c7X a4d0V",
     "a62cX a640A a66cO+1 a66dV a680A a69cO-a252 a69dO-a251 a69eV a6f8X a700V a722A a72eO+1 a72fV",
     "a732A a770O-1 a771V a779A a77dO-8a04 a77eA a786O+1 a787V a78bO+1 a78cV a78dO-a528 a78eV",
     "a790O+1 a791V a792O+1 a793V a796A a7aaO-a544 a7abO-a54f a7acO-a54b a7adO-a541 a7aeO-a544",
     "a7afV a7b0O-a512 a7b1O-a52a a7b2O-a515 a7b3O+3a0 a7b4A a7c4O-30 a7c5O-a543 a7c6O-8a38 a7c7A",
     "a7cbO-a567 a7ccA a7dcO-a641 a7ddX a7f1O-a77e a7f2O-a78f a7f3O-a78d a7f4O-a783 a7f5O+1 a7f6V",
     "a7f8O-a6d1 a7f9O-a6a6 a7faV a82dX a830V a83aX a840V a878X a880V a8c6X a8ceV a8daX a8e0V",
     "a954X a95fV a97dX a980V a9ceX a9cfV a9daX a9deV a9ffX aa00V aa37X aa40V aa4eX aa50V aa5aX",
     "aa5cV aac3X aadbV aaf7X ab01V ab07X ab09V ab0fX ab11V ab17X ab20V ab27X ab28V ab2fX ab30V",
     "ab5cO-435 ab5dO-26 ab5eO-a8f3 ab5fO-d ab60V ab69O-a8dc ab6aV ab6cX ab70O-97d0 abc0V abeeX",
     "abf0V abfaX ac00V d7a4X d7b0V d7c7X d7cbV d7fcX f900O-6cb8 f901O-920d f902O-6a38 f903O-6c3b",
     "f904O-8a33 f905O-aad3 f906O-a521 f907M9f9c f909O-9fb8 f90aO-6739 f90bO-a384 f90cO-9fc4",
     "f90dO-9717 f90eO-82a5 f90fO-798a f910O-72d1 f911O-7157 f912O-701a f913O-6884 f914O-8f12",
     "f915O-8bfa f916O-883d f917O-8539 f918O-74db f919O-67af f91aO-5f29 f91bO-aa99 f91cO-a5a7",
     "f91dO-8e19 f91eO-8703 f91fO-72f2 f920O-5b02 f921O-9bd1 f922O-8937 f923O-7356 f924O-6fc0",
     "f925O-965c f926O-774e f927O-7108 f928O-9a5e f929O-9212 f92aO-8bc0 f92bO-862f f92cO-685e",
     "f92dO-a9a7 f92eO-a777 f92fO-a651 f930O-946c f931O-8e5e f932O-8722 f933O-824c f934O-7933",
     "f935O-732f f936O-72da f937O-6b48 f938O-6206 f939O-5dca f93aO-5b40 f93bO-80af f93cO-7fbd",
     "f93dO-7b9d f93eO-7575 f93fO-663b f940O-5ac1 f941O-6e6b f942O-a063 f943O-9a3f f944O-7ce4",
     "f945O-78c7 f946O-86e4 f947O-807d f948O-6c86 f949O-6252 f94aO-a072 f94bO-9ce9 f94cO-8f39",
     "f94dO-8b73 f94eO-8a3f f94fO-7c20 f950O-7b19 f951O-6306 f952O-a680 f953O-78c8 f954O-a778",
     "f955O-a789 f956O-7f3a f957O-7b99 f958O-7567 f959O-62e4 f95aO-6dda f95bO-968c f95cO-8f5a",
     "f95dO-6e5f f95eO-ab25 f95fO-9d78 f960O-994e f961O-85da f962O-83f2 f963O-a64c f964O-8069",
     "f965O-a9a6 f966O-99bd f967O-ab5a f968O-8c9c f969O-93f1 f96aO-7c48 f96bO-a5a8 f96cO-a10e",
     "f96dO-826c f96eO-7525 f96fO-6ec5 f970O-8db6 f971O-69c1 f972O-8cea f973O-9675 f974O-768f",
     "f975O-95d5 f976O-8411 f977O-aac9 f978O-a80f f979O-a7b0 f97aO-90f9 f97bO-7c94 f97cO-770d",
     "f97dO-6eab f97eO-67af f97fO-a68a f980O-a53e f981O-a00e f982O-9a96 f983O-93be f984O-8986",
     "f985O-805b f986O-63d9 f987O-5f1d f988O-5af1 f989O-5abb f98aO-a6ef f98bO-92c5 f98cO-8e15",
     "f98dO-6a2b f98eO-9b1a f98fO-97ff f990O-9790 f991O-94f7 f992O-8a6f f993O-884a f994O-850b",
     "f995O-7fcb f996O-7ba2 f997O-7928 f998O-6a72 f999O-74ab f99aO-6977 f99bO-6651 f99cO-a785",
     "f99dO-a6fa f99eO-a4e1 f99fO-88d7 f9a0O-70de f9a1O-6ef7 f9a2O-9ad9 f9a3O-99ae f9a4O-9629",
     "f9a5O-8df7 f9a6O-7d68 f9a7O-8632 f9a8O-aac4 f9a9O-a2b0 f9aaO-9dc3 f9abO-9bf1 f9acO-9990",
     "f9adO-85fb f9aeO-8545 f9afO-7a15 f9b0O-796a f9b1O-677d f9b2O-62bc f9b3O-626b f9b4O-619c",
     "f9b5O-aa2a f9b6O-8008 f9b7O-6803 f9b8O-6300 f9b9O-98d8 f9baO-ab34 f9bbO-a8e1 f9bcO-9dce",
     "f9bdO-9d7e f9beO-9425 f9bfO-8fbd f9c0O-87f2 f9c1O-837f f9c2O-74c6 f9c3O-6947 f9c4O-5a37",
     "f9c5O-933d f9c6O-6398 f9c7O-a73e f9c8O-924d f9c9O-91d6 f9caO-8c89 f9cbO-8b2f f9ccO-85c3",
     "f9cdO-8474 f9ceO-8163 f9cfO-7cbf f9d0O-6172 f9d1O-a864 f9d2O-97a4 f9d3O-635b f9d4O-a9a9",
     "f9d5O-9cbc f9d6O-8bec f9d7O-6aad f9d8O-9a4d f9d9O-9895 f9daO-91c3 f9dbO-8654 f9dcO-6356",
     "f9ddO-a7b4 f9deO-a5cf f9dfO-9d7a f9e0O-93cd f9e1O-9293 f9e2O-913a f9e3O-8cfe f9e4O-85de",
     "f9e5O-8403 f9e6O-7a6d f9e7O-7118 f9e8O-7107 f9e9O-681d f9eaO-6308 f9ebO-a6ac f9ecO-8b32",
     "f9edO-a5d0 f9eeO-881e f9efO-8557 f9f0O-73f6 f9f1O-634e f9f2O-5d9b f9f3O-5b54 f9f4O-925d",
     "f9f5O-8c2a f9f6O-780e f9f7O-7f2c f9f8O-7ed8 f9f9O-7d67 f9faO-873a f9fbO-8962 f9fcO-6ea4",
     "f9fdO-ab3d f9feO-76c8 f9ffO-a7c5 fa00O-a7f9 fa01O-9b5b fa02O-972f fa03O-7d2d fa04O-9e7f",
     "fa05O-8ce7 fa06O-9352 fa07O-6acc fa08O-71bc fa09O-63bc fa0aO-707f fa0bO-9b38 fa0cO-a8cc",
     "fa0dO-a44d fa0eV fa10O-a1b6 fa11V fa12O-939e fa13V fa15O-a837 fa16O-86ec fa17O-834d",
     "fa18O-80dc fa19O-80bb fa1aO-80b5 fa1bO-808c fa1cO-62c6 fa1dO-7d5f fa1eO-7a61 fa1fV",
     "fa20O-740e fa21V fa22O-6f2a fa23V fa25O-69ed fa26O-6929 fa27V fa2aO-613b fa2bO-612f",
     "fa2cO-6104 fa2dO-5c79 fa2eO-6950 fa2fO-6378 fa30O-aa82 fa31O-a94a fa32O-a8e5 fa33O-a76a",
     "fa34O-a750 fa35O-a6e4 fa36O-a499 fa37O-a431 fa38O-a3d0 fa39O-a1f9 fa3aO-a192 fa3bO-9dd7",
     "fa3cO-9dce fa3dO-99a9 fa3eO-98d6 fa3fO-98b1 fa40O-984e fa41O-94f2 fa42O-9460 fa43O-93b2",
     "fa44O-91bf fa45O-8cce fa46O-8c2c fa47O-8b25 fa48O-88da fa49O-881e fa4aO-8628 fa4bO-81ba",
     "fa4cO-810e fa4dO-8104 fa4eO-8106 fa4fO-80ff fa50O-80fa fa51O-80f4 fa52O-80c5 fa54O-8014",
     "fa55O-7fd4 fa56O-7e96 fa57O-7c63 fa58O-7c4f fa59O-7c18 fa5aO-7ae8 fa5bO-7a56 fa5cO-786f",
     "fa5dM8279 fa5fO-7608 fa60O-7150 fa61O-70cb fa62O-6f61 fa63O-6f2a fa64O-6d91 fa65O-6d5d",
     "fa66O-6ab0 fa67O-6a2f fa68O-6385 fa69O-626a fa6aO-622f fa6bO-99f6 fa6cO+14882 fa6dO-7855",
     "fa6eX fa70O-ac4a fa71O-a8bc fa72O-a90a fa73O-aaf3 fa74O-a92f fa75O-a8f5 fa76O-a7af",
     "fa77O-a77d fa78O-a4db fa79O-a524 fa7aO-a4e1 fa7bO-a499 fa7cO-a222 fa7dO-a1ca fa7eO-a13a",
     "fa7fO-a12b fa80O-a01e fa81O-9f59 fa82O-9bb0 fa83O-9baa fa84O-9b1b fa85O-9ad8 fa86O-99ae",
     "fa87O-9939 fa88O-9980 fa89O-98fb fa8aO-992a fa8bO-9899 fa8cO-9858 fa8dO-96c9 fa8eO-9672",
     "fa8fO-963d fa90O-953a fa91O-941d fa92O-937b fa93O-9378 fa94O-933e fa95O-8f1c fa96O-8edc",
     "fa97O-8d56 fa98O-8bbd fa99O-8bce fa9aO-8b78 fa9bO-8a7d fa9cO-892e fa9dO-82f6 fa9eO-8869",
     "fa9fO-87f0 faa0O-8776 faa1O-8630 faa2O-859c faa3O-8568 faa4O-8487 faa5O-8486 faa6O-83dc",
     "faa7O-83cc faa8O-83b4 faa9O-835f faaaO-836a faabO-81df faacO-7ffb faadO-7eed faaeO-7e33",
     "faafO-7d54 fab0O-7cbc fab1O-7b73 fab2O-7aad fab3O-7761 fab4O-76c5 fab5O-733c fab6O-7175",
     "fab7O-7131 fab8O-7122 fab9O-6ffa fabaO-6fc2 fabbO-6ff0 fabcO-6fbb fabdO-6fbf fabeO-6fd1",
     "fabfO-6f86 fac0O-6f36 fac1O-6db9 fac2O-6b8a fac3O-6a51 fac4O-692b fac5O-684f fac6O-644a",
     "fac7O-63e4 fac8O-6372 fac9O-62ee facaO-62cb facbO-62c0 faccO-6291 facdO-5fbb faceO-5b32",
     "facfO+12d7b fad0O+12d74 fad1O+13904 fad2O-bf35 fad3O-babb fad4O-ba9b fad5O+15774 fad6O+161fa",
     "fad7O+183fc fad8O-5b95 fad9O-5b4b fadaX fb00M66_66 fb01M66_69 fb02M66_6c fb03M66_66_69",
     "fb04M66_66_6c fb05M73_74 fb07X fb13M574_576 fb14M574_565 fb15M574_56b fb16M57e_576",
     "fb17M574_56d fb18X fb1dM5d9_5b4 fb1eV fb1fM5f2_5b7 fb20O-f53e fb21O-f551 fb22O-f54f",
     "fb24O-f549 fb27O-f53f fb28O-f53e fb29O-fafe fb2aM5e9_5c1 fb2bM5e9_5c2 fb2cM5e9_5bc_5c1",
     "fb2dM5e9_5bc_5c2 fb2eM5d0_5b7 fb2fM5d0_5b8 fb30M5d0_5bc fb31M5d1_5bc fb32M5d2_5bc",
     "fb33M5d3_5bc fb34M5d4_5bc fb35M5d5_5bc fb36M5d6_5bc fb37X fb38M5d8_5bc fb39M5d9_5bc",
     "fb3aM5da_5bc fb3bM5db_5bc fb3cM5dc_5bc fb3dX fb3eM5de_5bc fb3fX fb40M5e0_5bc fb41M5e1_5bc",
     "fb42X fb43M5e3_5bc fb44M5e4_5bc fb45X fb46M5e6_5bc fb47M5e7_5bc fb48M5e8_5bc fb49M5e9_5bc",
     "fb4aM5ea_5bc fb4bM5d5_5b9 fb4cM5d1_5bf fb4dM5db_5bf fb4eM5e4_5bf fb4fM5d0_5dc fb50M671",
     "fb52M67b fb56M67e fb5aM680 fb5eM67a fb62M67f fb66M679 fb6aM6a4 fb6eM6a6 fb72M684 fb76M683",
     "fb7aM686 fb7eM687 fb82M68d fb84M68c fb86M68e fb88M688 fb8aM698 fb8cM691 fb8eM6a9 fb92M6af",
     "fb96M6b3 fb9aM6b1 fb9eM6ba fba0M6bb fba4M6c0 fba6M6c1 fbaaM6be fbaeM6d2 fbb0M6d3 fbb2V",
     "fbd3M6ad fbd7M6c7 fbd9M6c6 fbdbM6c8 fbddM6c7_674 fbdeM6cb fbe0M6c5 fbe2M6c9 fbe4M6d0",
     "fbe8M649 fbeaM626_627 fbecM626_6d5 fbeeM626_648 fbf0M626_6c7 fbf2M626_6c6 fbf4M626_6c8",
     "fbf6M626_6d0 fbf9M626_649 fbfcM6cc fc00M626_62c fc01M626_62d fc02M626_645 fc03M626_649",
     "fc04M626_64a fc05M628_62c fc06M628_62d fc07M628_62e fc08M628_645 fc09M628_649 fc0aM628_64a",
     "fc0bM62a_62c fc0cM62a_62d fc0dM62a_62e fc0eM62a_645 fc0fM62a_649 fc10M62a_64a fc11M62b_62c",
     "fc12M62b_645 fc13M62b_649 fc14M62b_64a fc15M62c_62d fc16M62c_645 fc17M62d_62c fc18M62d_645",
     "fc19M62e_62c fc1aM62e_62d fc1bM62e_645 fc1cM633_62c fc1dM633_62d fc1eM633_62e fc1fM633_645",
     "fc20M635_62d fc21M635_645 fc22M636_62c fc23M636_62d fc24M636_62e fc25M636_645 fc26M637_62d",
     "fc27M637_645 fc28M638_645 fc29M639_62c fc2aM639_645 fc2bM63a_62c fc2cM63a_645 fc2dM641_62c",
     "fc2eM641_62d fc2fM641_62e fc30M641_645 fc31M641_649 fc32M641_64a fc33M642_62d fc34M642_645",
     "fc35M642_649 fc36M642_64a fc37M643_627 fc38M643_62c fc39M643_62d fc3aM643_62e fc3bM643_644",
     "fc3cM643_645 fc3dM643_649 fc3eM643_64a fc3fM644_62c fc40M644_62d fc41M644_62e fc42M644_645",
     "fc43M644_649 fc44M644_64a fc45M645_62c fc46M645_62d fc47M645_62e fc48M645_645 fc49M645_649",
     "fc4aM645_64a fc4bM646_62c fc4cM646_62d fc4dM646_62e fc4eM646_645 fc4fM646_649 fc50M646_64a",
     "fc51M647_62c fc52M647_645 fc53M647_649 fc54M647_64a fc55M64a_62c fc56M64a_62d fc57M64a_62e",
     "fc58M64a_645 fc59M64a_649 fc5aM64a_64a fc5bM630_670 fc5cM631_670 fc5dM649_670",
     "fc5eM20_64c_651 fc5fM20_64d_651 fc60M20_64e_651 fc61M20_64f_651 fc62M20_650_651",
     "fc63M20_651_670 fc64M626_631 fc65M626_632 fc66M626_645 fc67M626_646 fc68M626_649",
     "fc69M626_64a fc6aM628_631 fc6bM628_632 fc6cM628_645 fc6dM628_646 fc6eM628_649 fc6fM628_64a",
     "fc70M62a_631 fc71M62a_632 fc72M62a_645 fc73M62a_646 fc74M62a_649 fc75M62a_64a fc76M62b_631",
     "fc77M62b_632 fc78M62b_645 fc79M62b_646 fc7aM62b_649 fc7bM62b_64a fc7cM641_649 fc7dM641_64a",
     "fc7eM642_649 fc7fM642_64a fc80M643_627 fc81M643_644 fc82M643_645 fc83M643_649 fc84M643_64a",
     "fc85M644_645 fc86M644_649 fc87M644_64a fc88M645_627 fc89M645_645 fc8aM646_631 fc8bM646_632",
     "fc8cM646_645 fc8dM646_646 fc8eM646_649 fc8fM646_64a fc90M649_670 fc91M64a_631 fc92M64a_632",
     "fc93M64a_645 fc94M64a_646 fc95M64a_649 fc96M64a_64a fc97M626_62c fc98M626_62d fc99M626_62e",
     "fc9aM626_645 fc9bM626_647 fc9cM628_62c fc9dM628_62d fc9eM628_62e fc9fM628_645 fca0M628_647",
     "fca1M62a_62c fca2M62a_62d fca3M62a_62e fca4M62a_645 fca5M62a_647 fca6M62b_645 fca7M62c_62d",
     "fca8M62c_645 fca9M62d_62c fcaaM62d_645 fcabM62e_62c fcacM62e_645 fcadM633_62c fcaeM633_62d",
     "fcafM633_62e fcb0M633_645 fcb1M635_62d fcb2M635_62e fcb3M635_645 fcb4M636_62c fcb5M636_62d",
     "fcb6M636_62e fcb7M636_645 fcb8M637_62d fcb9M638_645 fcbaM639_62c fcbbM639_645 fcbcM63a_62c",
     "fcbdM63a_645 fcbeM641_62c fcbfM641_62d fcc0M641_62e fcc1M641_645 fcc2M642_62d fcc3M642_645",
     "fcc4M643_62c fcc5M643_62d fcc6M643_62e fcc7M643_644 fcc8M643_645 fcc9M644_62c fccaM644_62d",
     "fccbM644_62e fcccM644_645 fccdM644_647 fcceM645_62c fccfM645_62d fcd0M645_62e fcd1M645_645",
     "fcd2M646_62c fcd3M646_62d fcd4M646_62e fcd5M646_645 fcd6M646_647 fcd7M647_62c fcd8M647_645",
     "fcd9M647_670 fcdaM64a_62c fcdbM64a_62d fcdcM64a_62e fcddM64a_645 fcdeM64a_647 fcdfM626_645",
     "fce0M626_647 fce1M628_645 fce2M628_647 fce3M62a_645 fce4M62a_647 fce5M62b_645 fce6M62b_647",
     "fce7M633_645 fce8M633_647 fce9M634_645 fceaM634_647 fcebM643_644 fcecM643_645 fcedM644_645",
     "fceeM646_645 fcefM646_647 fcf0M64a_645 fcf1M64a_647 fcf2M640_64e_651 fcf3M640_64f_651",
     "fcf4M640_650_651 fcf5M637_649 fcf6M637_64a fcf7M639_649 fcf8M639_64a fcf9M63a_649",
     "fcfaM63a_64a fcfbM633_649 fcfcM633_64a fcfdM634_649 fcfeM634_64a fcffM62d_649 fd00M62d_64a",
     "fd01M62c_649 fd02M62c_64a fd03M62e_649 fd04M62e_64a fd05M635_649 fd06M635_64a fd07M636_649",
     "fd08M636_64a fd09M634_62c fd0aM634_62d fd0bM634_62e fd0cM634_645 fd0dM634_631 fd0eM633_631",
     "fd0fM635_631 fd10M636_631 fd11M637_649 fd12M637_64a fd13M639_649 fd14M639_64a fd15M63a_649",
     "fd16M63a_64a fd17M633_649 fd18M633_64a fd19M634_649 fd1aM634_64a fd1bM62d_649 fd1cM62d_64a",
     "fd1dM62c_649 fd1eM62c_64a fd1fM62e_649 fd20M62e_64a fd21M635_649 fd22M635_64a fd23M636_649",
     "fd24M636_64a fd25M634_62c fd26M634_62d fd27M634_62e fd28M634_645 fd29M634_631 fd2aM633_631",
     "fd2bM635_631 fd2cM636_631 fd2dM634_62c fd2eM634_62d fd2fM634_62e fd30M634_645 fd31M633_647",
     "fd32M634_647 fd33M637_645 fd34M633_62c fd35M633_62d fd36M633_62e fd37M634_62c fd38M634_62d",
     "fd39M634_62e fd3aM637_645 fd3bM638_645 fd3cM627_64b fd3eV fd50M62a_62c_645 fd51M62a_62d_62c",
     "fd53M62a_62d_645 fd54M62a_62e_645 fd55M62a_645_62c fd56M62a_645_62d fd57M62a_645_62e",
     "fd58M62c_645_62d fd5aM62d_645_64a fd5bM62d_645_649 fd5cM633_62d_62c fd5dM633_62c_62d",
     "fd5eM633_62c_649 fd5fM633_645_62d fd61M633_645_62c fd62M633_645_645 fd64M635_62d_62d",
     "fd66M635_645_645 fd67M634_62d_645 fd69M634_62c_64a fd6aM634_645_62e fd6cM634_645_645",
     "fd6eM636_62d_649 fd6fM636_62e_645 fd71M637_645_62d fd73M637_645_645 fd74M637_645_64a",
     "fd75M639_62c_645 fd76M639_645_645 fd78M639_645_649 fd79M63a_645_645 fd7aM63a_645_64a",
     "fd7bM63a_645_649 fd7cM641_62e_645 fd7eM642_645_62d fd7fM642_645_645 fd80M644_62d_645",
     "fd81M644_62d_64a fd82M644_62d_649 fd83M644_62c_62c fd85M644_62e_645 fd87M644_645_62d",
     "fd89M645_62d_62c fd8aM645_62d_645 fd8bM645_62d_64a fd8cM645_62c_62d fd8dM645_62c_645",
     "fd8eM645_62e_62c fd8fM645_62e_645 fd90V fd92M645_62c_62e fd93M647_645_62c fd94M647_645_645",
     "fd95M646_62d_645 fd96M646_62d_649 fd97M646_62c_645 fd99M646_62c_649 fd9aM646_645_64a",
     "fd9bM646_645_649 fd9cM64a_645_645 fd9eM628_62e_64a fd9fM62a_62c_64a fda0M62a_62c_649",
     "fda1M62a_62e_64a fda2M62a_62e_649 fda3M62a_645_64a fda4M62a_645_649 fda5M62c_645_64a",
     "fda6M62c_62d_649 fda7M62c_645_649 fda8M633_62e_649 fda9M635_62d_64a fdaaM634_62d_64a",
     "fdabM636_62d_64a fdacM644_62c_64a fdadM644_645_64a fdaeM64a_62d_64a fdafM64a_62c_64a",
     "fdb0M64a_645_64a fdb1M645_645_64a fdb2M642_645_64a fdb3M646_62d_64a fdb4M642_645_62d",
     "fdb5M644_62d_645 fdb6M639_645_64a fdb7M643_645_64a fdb8M646_62c_62d fdb9M645_62e_64a",
     "fdbaM644_62c_645 fdbbM643_645_645 fdbcM644_62c_645 fdbdM646_62c_62d fdbeM62c_62d_64a",
     "fdbfM62d_62c_64a fdc0M645_62c_64a fdc1M641_645_64a fdc2M628_62d_64a fdc3M643_645_645",
     "fdc4M639_62c_645 fdc5M635_645_645 fdc6M633_62e_64a fdc7M646_62c_64a fdc8V fdd0X",
     "fdf0M635_644_6d2 fdf1M642_644_6d2 fdf2M627_644_644_647 fdf3M627_643_628_631",
     "fdf4M645_62d_645_62f fdf5M635_644_639_645 fdf6M631_633_648_644 fdf7M639_644_64a_647",
     "fdf8M648_633_644_645 fdf9M635_644_649",
     "fdfaM635_644_649_20_627_644_644_647_20_639_644_64a_647_20_648_633_644_645",
     "fdfbM62c_644_20_62c_644_627_644_647 fdfcM631_6cc_627_644 fdfdV fe00I fe10O-fde4 fe11O-ce10",
     "fe12X fe13O-fdd9 fe15O-fdf4 fe16O-fdd7 fe17O-ce01 fe19X fe20V fe30X fe31O-de1d fe32O-de1f",
     "fe33M5f fe35O-fe0d fe37O-fdbc fe38O-fdbb fe39O-ce25 fe3bO-ce2b fe3dO-ce33 fe3fO-ce37",
     "fe41O-ce35 fe45V fe47O-fdec fe48O-fdeb fe49M20_305 fe4dM5f fe50O-fe24 fe51O-ce50 fe52X",
     "fe54O-fe19 fe55O-fe1b fe56O-fe17 fe57O-fe36 fe58O-de44 fe59O-fe31 fe5bO-fde0 fe5cO-fddf",
     "fe5dO-ce49 fe5fO-fe3c fe60O-fe3a fe61O-fe37 fe63O-fe36 fe64O-fe28 fe65O-fe27 fe66O-fe29",
     "fe67X fe68O-fe0c fe69O-fe45 fe6bO-fe2b fe6cX fe70M20_64b fe71M640_64b fe72M20_64c fe73V",
     "fe74M20_64d fe75X fe76M20_64e fe77M640_64e fe78M20_64f fe79M640_64f fe7aM20_650 fe7bM640_650",
     "fe7cM20_651 fe7dM640_651 fe7eM20_652 fe7fM640_652 fe80O-f85f fe81M622 fe83M623 fe85M624",
     "fe87M625 fe89M626 fe8dM627 fe8fM628 fe93M629 fe95M62a fe99M62b fe9dM62c fea1M62d fea5M62e",
     "fea9M62f feabM630 feadM631 feafM632 feb1M633 feb5M634 feb9M635 febdM636 fec1M637 fec5M638",
     "fec9M639 fecdM63a fed1M641 fed5M642 fed9M643 feddM644 fee1M645 fee5M646 fee9M647 feedM648",
     "feefM649 fef1M64a fef5M644_622 fef7M644_623 fef9M644_625 fefbM644_627 fefdX feffI ff00X",
     "ff01O-fee0 ff21O-fec0 ff3bO-fee0 ff5fO-d5da ff61O-ff33 ff62O-cf56 ff64O-cf63 ff65O-ce6a",
     "ff66O-ce74 ff67O-cec6 ff68O-cec5 ff69O-cec4 ff6aO-cec3 ff6bO-cec2 ff6cO-ce89 ff6dO-ce88",
     "ff6eO-ce87 ff6fO-ceac ff70O-ce74 ff71O-cecf ff72O-cece ff73O-cecd ff74O-cecc ff75O-cecb",
     "ff77O-ceca ff78O-cec9 ff79O-cec8 ff7aO-cec7 ff7bO-cec6 ff7cO-cec5 ff7dO-cec4 ff7eO-cec3",
     "ff7fO-cec2 ff80O-cec1 ff81O-cec0 ff82O-cebe ff83O-cebd ff84O-cebc ff85O-cebb ff8bO-ceb9",
     "ff8cO-ceb7 ff8dO-ceb5 ff8eO-ceb3 ff8fO-ceb1 ff94O-ceb0 ff95O-ceaf ff96O-ceae ff9cO-cead",
     "ff9dO-ceaa ff9eO-cf05 ffa0I ffa1O-eea1 ffa3O-edf9 ffa4O-eea2 ffa5O-edf9 ffa7O-eea4",
     "ffaaO-edfa ffb0O-ee96 ffb1O-eeab ffb4O-ee93 ffb5O-eeac ffbfX ffc2O-ee61 ffc8X ffcaO-ee63",
     "ffd0X ffd2O-ee65 ffd8X ffdaO-ee67 ffddX ffe0O-ff3e ffe2O-ff36 ffe3M20_304 ffe4O-ff3e",
     "ffe5O-ff40 ffe6O-df3d ffe7X ffe8O-dae6 ffe9O-de59 ffedO-da4d ffeeO-da23 ffefX 10000V 1000cX",
     "1000dV 10027X 10028V 1003bX 1003cV 1003eX 1003fV 1004eX 10050V 1005eX 10080V 100fbX 10100V",
     "10103X 10107V 10134X 10137V 1018fX 10190V 1019dX 101a0V 101a1X 101d0V 101feX 10280V 1029dX",
     "102a0V 102d1X 102e0V 102fcX 10300V 10324X 1032dV 1034bX 10350V 1037bX 10380V 1039eX 1039fV",
     "103c4X 103c8V 103d6X 10400O+28 10428V 1049eX 104a0V 104aaX 104b0O+28 104d4X 104d8V 104fcX",
     "10500V 10528X 10530V 10564X 1056fV 10570O+27 1057bX 1057cO+27 1058bX 1058cO+27 10593X",
     "10594O+27 10596X 10597V 105a2X 105a3V 105b2X 105b3V 105baX 105bbV 105bdX 105c0V 105f4X",
     "10600V 10737X 10740V 10756X 10760V 10768X 10780V 10781O-104b1 10783O-1069d 10784O-104eb",
     "10785O-10532 10786X 10787O-104e4 10788O-5c22 10789O-104e4 1078aO-104e6 1078bO-10535",
     "1078dO-e9fc 1078eO-10536 1078fO-10531 10790O-104e7 10791O-1052d 10792O-10530 10793O-10533",
     "10794O-104f9 10795O-1066e 10796O-104fa 10797O-10530 10798O-10514 10799O-104ef 1079bO-1052f",
     "1079cO+d768 1079dO-600f 1079eO-10530 1079fO+d766 107a0O-10512 107a1O+d765 107a2O-106aa",
     "107a3O-1052d 107a5O-10734 107a6O-1052c 107a7O+d761 107a8O-1052b 107aaO-1052a 107abO-10503",
     "107acO-10506 107adO-5c46 107aeO-10507 107afO-10527 107b0O-db3f 107b1X 107b2O-10523",
     "107b3O-10512 107b5O-1051d 107b6O-105f6 107b9O+d751 107baO+d764 107bbX 10800V 10806X 10808V",
     "10809X 1080aV 10836X 10837V 10839X 1083cV 1083dX 1083fV 10856X 10857V 1089fX 108a7V 108b0X",
     "108e0V 108f3X 108f4V 108f6X 108fbV 1091cX 1091fV 1093aX 1093fV 1095aX 10980V 109b8X 109bcV",
     "109d0X 109d2V 10a04X 10a05V 10a07X 10a0cV 10a14X 10a15V 10a18X 10a19V 10a36X 10a38V 10a3bX",
     "10a3fV 10a49X 10a50V 10a59X 10a60V 10aa0X 10ac0V 10ae7X 10aebV 10af7X 10b00V 10b36X 10b39V",
     "10b56X 10b58V 10b73X 10b78V 10b92X 10b99V 10b9dX 10ba9V 10bb0X 10c00V 10c49X 10c80O+40",
     "10cb3X 10cc0V 10cf3X 10cfaV 10d28X 10d30V 10d3aX 10d40V 10d50O+20 10d66X 10d69V 10d86X",
     "10d8eV 10d90X 10e60V 10e7fX 10e80V 10eaaX 10eabV 10eaeX 10eb0V 10eb2X 10ec2V 10ec8X 10ed0V",
     "10ed9X 10efaV 10f28X 10f30V 10f5aX 10f70V 10f8aX 10fb0V 10fccX 10fe0V 10ff7X 11000V 1104eX",
     "11052V 11076X 1107fV 110bdX 110beV 110c3X 110d0V 110e9X 110f0V 110faX 11100V 11135X 11136V",
     "11148X 11150V 11177X 11180V 111e0X 111e1V 111f5X 11200V 11212X 11213V 11242X 11280V 11287X",
     "11288V 11289X 1128aV 1128eX 1128fV 1129eX 1129fV 112aaX 112b0V 112ebX 112f0V 112faX 11300V",
     "11304X 11305V 1130dX 1130fV 11311X 11313V 11329X 1132aV 11331X 11332V 11334X 11335V 1133aX",
     "1133bV 11345X 11347V 11349X 1134bV 1134eX 11350V 11351X 11357V 11358X 1135dV 11364X 11366V",
     "1136dX 11370V 11375X 11380V 1138aX 1138bV 1138cX 1138eV 1138fX 11390V 113b6X 113b7V 113c1X",
     "113c2V 113c3X 113c5V 113c6X 113c7V 113cbX 113ccV 113d6X 113d7V 113d9X 113e1V 113e3X 11400V",
     "1145cX 1145dV 11462X 11480V 114c8X 114d0V 114daX 11580V 115b6X 115b8V 115deX 11600V 11645X",
     "11650V 1165aX 11660V 1166dX 11680V 116baX 116c0V 116caX 116d0V 116e4X 11700V 1171bX 1171dV",
     "1172cX 11730V 11747X 11800V 1183cX 118a0O+20 118c0V 118f3X 118ffV 11907X 11909V 1190aX",
     "1190cV 11914X 11915V 11917X 11918V 11936X 11937V 11939X 1193bV 11947X 11950V 1195aX 119a0V",
     "119a8X 119aaV 119d8X 119daV 119e5X 11a00V 11a48X 11a50V 11aa3X 11ab0V 11af9X 11b00V 11b0aX",
     "11b60V 11b68X 11bc0V 11be2X 11bf0V 11bfaX 11c00V 11c09X 11c0aV 11c37X 11c38V 11c46X 11c50V",
     "11c6dX 11c70V 11c90X 11c92V 11ca8X 11ca9V 11cb7X 11d00V 11d07X 11d08V 11d0aX 11d0bV 11d37X",
     "11d3aV 11d3bX 11d3cV 11d3eX 11d3fV 11d48X 11d50V 11d5aX 11d60V 11d66X 11d67V 11d69X 11d6aV",
     "11d8fX 11d90V 11d92X 11d93V 11d99X 11da0V 11daaX 11db0V 11ddcX 11de0V 11deaX 11ee0V 11ef9X",
     "11f00V 11f11X 11f12V 11f3bX 11f3eV 11f5bX 11fb0V 11fb1X 11fc0V 11ff2X 11fffV 1239aX 12400V",
     "1246fX 12470V 12475X 12480V 12544X 12f90V 12ff3X 13000V 13430X 13440V 13456X 13460V 143fbX",
     "14400V 14647X 16100V 1613aX 16800V 16a39X 16a40V 16a5fX 16a60V 16a6aX 16a6eV 16abfX 16ac0V",
     "16acaX 16ad0V 16aeeX 16af0V 16af6X 16b00V 16b46X 16b50V 16b5aX 16b5bV 16b62X 16b63V 16b78X",
     "16b7dV 16b90X 16d40V 16d7aX 16e40O+20 16e60V 16e9bX 16ea0O+1b 16eb9X 16ebbV 16ed4X 16f00V",
     "16f4bX 16f4fV 16f88X 16f8fV 16fa0X 16fe0V 16fe5X 16ff0V 16ff7X 17000V 18cd6X 18cffV 18d1fX",
     "18d80V 18df3X 1aff0V 1aff4X 1aff5V 1affcX 1affdV 1afffX 1b000V 1b123X 1b132V 1b133X 1b150V",
     "1b153X 1b155V 1b156X 1b164V 1b168X 1b170V 1b2fcX 1bc00V 1bc6bX 1bc70V 1bc7dX 1bc80V 1bc89X",
     "1bc90V 1bc9aX 1bc9cV 1bca0I 1bca4X 1cc00V 1ccd6O-1cc75 1ccf0O-1ccc0 1ccfaV 1ccfdX 1cd00V",
     "1ceb4X 1cebaV 1ced1X 1cee0V 1cef1X 1cf00V 1cf2eX 1cf30V 1cf47X 1cf50V 1cfc4X 1d000V 1d0f6X",
     "1d100V 1d127X 1d129V 1d15eM1d157_1d165 1d15fM1d158_1d165 1d160M1d158_1d165_1d16e",
     "1d161M1d158_1d165_1d16f 1d162M1d158_1d165_1d170 1d163M1d158_1d165_1d171",
     "1d164M1d158_1d165_1d172 1d165V 1d173I 1d17bV 1d1bbM1d1b9_1d165 1d1bcM1d1ba_1d165",
     "1d1bdM1d1b9_1d165_1d16e 1d1beM1d1ba_1d165_1d16e 1d1bfM1d1b9_1d165_1d16f",
     "1d1c0M1d1ba_1d165_1d16f 1d1c1V 1d1ebX 1d200V 1d246X 1d2c0V 1d2d4X 1d2e0V 1d2f4X 1d300V",
     "1d357X 1d360V 1d379X 1d400O-1d39f 1d41aO-1d3b9 1d434O-1d3d3 1d44eO-1d3ed 1d455X 1d456O-1d3ed",
     "1d468O-1d407 1d482O-1d421 1d49cO-1d43b 1d49dX 1d49eO-1d43b 1d4a0X 1d4a2O-1d43b 1d4a3X",
     "1d4a5O-1d43b 1d4a7X 1d4a9O-1d43b 1d4adX 1d4aeO-1d43b 1d4b6O-1d455 1d4baX 1d4bbO-1d455 1d4bcX",
     "1d4bdO-1d455 1d4c4X 1d4c5O-1d455 1d4d0O-1d46f 1d4eaO-1d489 1d504O-1d4a3 1d506X 1d507O-1d4a3",
     "1d50bX 1d50dO-1d4a3 1d515X 1d516O-1d4a3 1d51dX 1d51eO-1d4bd 1d538O-1d4d7 1d53aX 1d53bO-1d4d7",
     "1d53fX 1d540O-1d4d7 1d545X 1d546O-1d4d7 1d547X 1d54aO-1d4d7 1d551X 1d552O-1d4f1 1d56cO-1d50b",
     "1d586O-1d525 1d5a0O-1d53f 1d5baO-1d559 1d5d4O-1d573 1d5eeO-1d58d 1d608O-1d5a7 1d622O-1d5c1",
     "1d63cO-1d5db 1d656O-1d5f5 1d670O-1d60f 1d68aO-1d629 1d6a4O-1d573 1d6a5O-1d46e 1d6a6X",
     "1d6a8O-1d2f7 1d6b9O-1d301 1d6baO-1d2f7 1d6c1O-1b4ba 1d6c2O-1d311 1d6d3M3c3 1d6d5O-1d311",
     "1d6dbO-1b4d9 1d6dcO-1d327 1d6ddO-1d325 1d6deO-1d324 1d6dfO-1d319 1d6e0O-1d31f 1d6e1O-1d321",
     "1d6e2O-1d331 1d6f3O-1d33b 1d6f4O-1d331 1d6fbO-1b4f4 1d6fcO-1d34b 1d70dM3c3 1d70fO-1d34b",
     "1d715O-1b513 1d716O-1d361 1d717O-1d35f 1d718O-1d35e 1d719O-1d353 1d71aO-1d359 1d71bO-1d35b",
     "1d71cO-1d36b 1d72dO-1d375 1d72eO-1d36b 1d735O-1b52e 1d736O-1d385 1d747M3c3 1d749O-1d385",
     "1d74fO-1b54d 1d750O-1d39b 1d751O-1d399 1d752O-1d398 1d753O-1d38d 1d754O-1d393 1d755O-1d395",
     "1d756O-1d3a5 1d767O-1d3af 1d768O-1d3a5 1d76fO-1b568 1d770O-1d3bf 1d781M3c3 1d783O-1d3bf",
     "1d789O-1b587 1d78aO-1d3d5 1d78bO-1d3d3 1d78cO-1d3d2 1d78dO-1d3c7 1d78eO-1d3cd 1d78fO-1d3cf",
     "1d790O-1d3df 1d7a1O-1d3e9 1d7a2O-1d3df 1d7a9O-1b5a2 1d7aaO-1d3f9 1d7bbM3c3 1d7bdO-1d3f9",
     "1d7c3O-1b5c1 1d7c4O-1d40f 1d7c5O-1d40d 1d7c6O-1d40c 1d7c7O-1d401 1d7c8O-1d407 1d7c9O-1d409",
     "1d7caM3dd 1d7ccX 1d7ceO-1d79e 1d7d8O-1d7a8 1d7e2O-1d7b2 1d7ecO-1d7bc 1d7f6O-1d7c6 1d800V",
     "1da8cX 1da9bV 1daa0X 1daa1V 1dab0X 1df00V 1df1fX 1df25V 1df2bX 1e000V 1e007X 1e008V 1e019X",
     "1e01bV 1e022X 1e023V 1e025X 1e026V 1e02bX 1e030O-1dc00 1e039O-1dbff 1e03cO-1dbfe",
     "1e047O-1dbfc 1e048O-1dbfb 1e04aO-139c1 1e04bO-1db72 1e04cO-1dbf6 1e04dO-1dbf5 1e04eO-1db65",
     "1e04fO-1dba0 1e050O-1db81 1e051O-1dc21 1e05aO-1dc20 1e05cO-1dc1e 1e05eO-1dc1d 1e05fO-1dc1c",
     "1e065O-1dc1b 1e067O-1dbd6 1e068O-1dc12 1e069O-1dc14 1e06aO-1dc0b 1e06bO-1dbc0 1e06cO-13a1b",
     "1e06dO-1dbbc 1e06eX 1e08fV 1e090X 1e100V 1e12dX 1e130V 1e13eX 1e140V 1e14aX 1e14eV 1e150X",
     "1e290V 1e2afX 1e2c0V 1e2faX 1e2ffV 1e300X 1e4d0V 1e4faX 1e5d0V 1e5fbX 1e5ffV 1e600X 1e6c0V",
     "1e6dfX 1e6e0V 1e6f6X 1e6feV 1e700X 1e7e0V 1e7e7X 1e7e8V 1e7ecX 1e7edV 1e7efX 1e7f0V 1e7ffX",
     "1e800V 1e8c5X 1e8c7V 1e8d7X 1e900O+22 1e922V 1e94cX 1e950V 1e95aX 1e95eV 1e960X 1ec71V",
     "1ecb5X 1ed01V 1ed3eX 1ee00O-1e7d9 1ee02O-1e7d6 1ee03O-1e7d4 1ee04X 1ee05O-1e7bd 1ee06O-1e7d4",
     "1ee07O-1e7da 1ee08O-1e7d1 1ee09O-1e7bf 1ee0aO-1e7c7 1ee0eO-1e7db 1ee0fO-1e7d6 1ee10O-1e7cf",
     "1ee11O-1e7dc 1ee12O-1e7d0 1ee13O-1e7e2 1ee14O-1e7e0 1ee15O-1e7eb 1ee17O-1e7e9 1ee18O-1e7e8",
     "1ee19O-1e7e3 1ee1aO-1e7e2 1ee1bO-1e7e1 1ee1cO-1e7ae 1ee1dO-1e763 1ee1eO-1e77d 1ee1fO-1e7b0",
     "1ee20X 1ee21O-1e7f9 1ee22O-1e7f6 1ee23X 1ee24O-1e7dd 1ee25X 1ee27O-1e7fa 1ee28X 1ee29O-1e7df",
     "1ee2aO-1e7e7 1ee2eO-1e7fb 1ee2fO-1e7f6 1ee30O-1e7ef 1ee31O-1e7fc 1ee32O-1e7f0 1ee33X",
     "1ee34O-1e800 1ee35O-1e80b 1ee37O-1e809 1ee38X 1ee39O-1e803 1ee3aX 1ee3bO-1e801 1ee3cX",
     "1ee42O-1e816 1ee43X 1ee47O-1e81a 1ee48X 1ee49O-1e7ff 1ee4aX 1ee4bO-1e807 1ee4cX 1ee4dO-1e807",
     "1ee4eO-1e81b 1ee4fO-1e816 1ee50X 1ee51O-1e81c 1ee52O-1e810 1ee53X 1ee54O-1e820 1ee55X",
     "1ee57O-1e829 1ee58X 1ee59O-1e823 1ee5aX 1ee5bO-1e821 1ee5cX 1ee5dO-1e7a3 1ee5eX 1ee5fO-1e7f0",
     "1ee60X 1ee61O-1e839 1ee62O-1e836 1ee63X 1ee64O-1e81d 1ee65X 1ee67O-1e83a 1ee68O-1e831",
     "1ee69O-1e81f 1ee6aO-1e827 1ee6bX 1ee6cO-1e827 1ee6eO-1e83b 1ee6fO-1e836 1ee70O-1e82f",
     "1ee71O-1e83c 1ee72O-1e830 1ee73X 1ee74O-1e840 1ee75O-1e84b 1ee77O-1e849 1ee78X 1ee79O-1e843",
     "1ee7aO-1e842 1ee7bO-1e841 1ee7cO-1e80e 1ee7dX 1ee7eO-1e7dd 1ee7fX 1ee80O-1e859 1ee82O-1e856",
     "1ee83O-1e854 1ee84O-1e83d 1ee86O-1e854 1ee87O-1e85a 1ee88O-1e851 1ee89O-1e83f 1ee8aX",
     "1ee8bO-1e847 1ee8eO-1e85b 1ee8fO-1e856 1ee90O-1e84f 1ee91O-1e85c 1ee92O-1e850 1ee93O-1e862",
     "1ee94O-1e860 1ee95O-1e86b 1ee97O-1e869 1ee98O-1e868 1ee99O-1e863 1ee9aO-1e862 1ee9bO-1e861",
     "1ee9cX 1eea1O-1e879 1eea2O-1e876 1eea3O-1e874 1eea4X 1eea5O-1e85d 1eea6O-1e874 1eea7O-1e87a",
     "1eea8O-1e871 1eea9O-1e85f 1eeaaX 1eeabO-1e867 1eeaeO-1e87b 1eeafO-1e876 1eeb0O-1e86f",
     "1eeb1O-1e87c 1eeb2O-1e870 1eeb3O-1e882 1eeb4O-1e880 1eeb5O-1e88b 1eeb7O-1e889 1eeb8O-1e888",
     "1eeb9O-1e883 1eebaO-1e882 1eebbO-1e881 1eebcX 1eef0V 1eef2X 1f000V 1f02cX 1f030V 1f094X",
     "1f0a0V 1f0afX 1f0b1V 1f0c0X 1f0c1V 1f0d0X 1f0d1V 1f0f6X 1f101M30_2c 1f102M31_2c 1f103M32_2c",
     "1f104M33_2c 1f105M34_2c 1f106M35_2c 1f107M36_2c 1f108M37_2c 1f109M38_2c 1f10aM39_2c 1f10bV",
     "1f110M28_61_29 1f111M28_62_29 1f112M28_63_29 1f113M28_64_29 1f114M28_65_29 1f115M28_66_29",
     "1f116M28_67_29 1f117M28_68_29 1f118M28_69_29 1f119M28_6a_29 1f11aM28_6b_29 1f11bM28_6c_29",
     "1f11cM28_6d_29 1f11dM28_6e_29 1f11eM28_6f_29 1f11fM28_70_29 1f120M28_71_29 1f121M28_72_29",
     "1f122M28_73_29 1f123M28_74_29 1f124M28_75_29 1f125M28_76_29 1f126M28_77_29 1f127M28_78_29",
     "1f128M28_79_29 1f129M28_7a_29 1f12aM3014_73_3015 1f12bO-1f0c8 1f12cO-1f0ba 1f12dM63_64",
     "1f12eM77_7a 1f12fV 1f130O-1f0cf 1f14aM68_76 1f14bM6d_76 1f14cM73_64 1f14dM73_73",
     "1f14eM70_70_76 1f14fM77_63 1f150V 1f16aM6d_63 1f16bM6d_64 1f16cM6d_72 1f16dV 1f190M64_6a",
     "1f191V 1f1aeX 1f1e6V 1f200M307b_304b 1f201M30b3_30b3 1f202O-1c14d 1f203X 1f210O-18fc5",
     "1f211O-196ba 1f212O-19e46 1f213O-1c14c 1f214O-1a388 1f215O-198fb 1f216O-16833 1f217O-198ee",
     "1f218O-1a374 1f219O-18bf9 1f21aO-180f9 1f21bO-18c82 1f21cO-19fcf 1f21dO-19291 1f21eO-1a091",
     "1f21fO-18c6f 1f220O-1a003 1f221O-174df 1f222O-17d03 1f223O-1657a 1f224O-19934 1f225O-19dec",
     "1f226O-18312 1f227O-18f92 1f228O-18ed3 1f229O-1a429 1f22aO-1a421 1f22bO-161e1 1f22cO-19446",
     "1f22dO-1a400 1f22eO-19e3b 1f22fO-18f28 1f230O-164c0 1f231O-18fde 1f232O-178b1 1f233O-177b9",
     "1f234O-19e2c 1f235O-183b5 1f236O-18b2d 1f237O-18b2f 1f238O-17d05 1f239O-19fc7 1f23aO-19c84",
     "1f23bO-160ee 1f23cX 1f240M3014_672c_3015 1f241M3014_4e09_3015 1f242M3014_4e8c_3015",
     "1f243M3014_5b89_3015 1f244M3014_70b9_3015 1f245M3014_6253_3015 1f246M3014_76d7_3015",
     "1f247M3014_52dd_3015 1f248M3014_6557_3015 1f249X 1f250O-192b9 1f251O-19e62 1f252X 1f260V",
     "1f266X 1f300V 1f6d9X 1f6dcV 1f6edX 1f6f0V 1f6fdX 1f700V 1f7daX 1f7e0V 1f7ecX 1f7f0V 1f7f1X",
     "1f800V 1f80cX 1f810V 1f848X 1f850V 1f85aX 1f860V 1f888X 1f890V 1f8aeX 1f8b0V 1f8bcX 1f8c0V",
     "1f8c2X 1f8d0V 1f8d9X 1f900V 1fa58X 1fa60V 1fa6eX 1fa70V 1fa7dX 1fa80V 1fa8bX 1fa8eV 1fac7X",
     "1fac8V 1fac9X 1facdV 1faddX 1fadfV 1faebX 1faefV 1faf9X 1fb00V 1fb93X 1fb94V 1fbf0O-1fbc0",
     "1fbfaV 1fbfbX 20000V 2a6e0X 2a700V 2b81eX 2b820V 2ceaeX 2ceb0V 2ebe1X 2ebf0V 2ee5eX",
     "2f800O-2a9c3 2f801O-2a9c9 2f802O-2a9c1 2f803O-f6e1 2f804O-2a8a4 2f805O-2a857 2f806O-2a84b",
     "2f807O-2a805 2f808O-2a78e 2f809O-2a770 2f80aO-2a723 2f80bO-2a73c 2f80cO-2c36e 2f80dO-f1d3",
     "2f80eO-2a6c1 2f80fO-2a6bb 2f810O-2a6ac 2f811O-2a69a 2f812O-f2f6 2f813O-2c35a 2f814O-2a6ad",
     "2f815O-2a688 2f816O-f2cb 2f817O-2a680 2f818O-2a674 2f819O-2a94d 2f81aO-2a66e 2f81bO-2a666",
     "2f81cO-663d 2f81dO-2a628 2f81eO-2a61b 2f81fO-2c340 2f820O-2a5e5 2f821O-2a5db 2f822O-2a5b0",
     "2f823O-2a5ac 2f824O-2c30f 2f825O-2a55e 2f826O-2a55d 2f827O-2a543 2f828O-2a52e 2f829O-2a524",
     "2f82bO-2a514 2f82cO-2a4e3 2f82dO-2a4dc 2f82eO-2a4d4 2f82fO-2a4bc 2f830O-2a4b3 2f831M537f",
     "2f834O-ee08 2f835O-287c5 2f836O-2a46c 2f837O-2a458 2f838O-ecd5 2f839O-2a44e 2f83aO-2a449",
     "2f83bO-2a435 2f83cO-2a39e 2f83dO-2a405 2f83eO-2a3f6 2f83fO-2a3d7 2f840O-2a39e 2f841O-2a34b",
     "2f842O-2a332 2f843O-2a2f0 2f844O-2a2e1 2f845M5584 2f847O-2a2ae 2f848O-2a29d 2f849O-2a296",
     "2f84aO-2a288 2f84bO-2a135 2f84cO-2a246 2f84dO-2a136 2f84eO-2a1fd 2f84fO-2a1db 2f850O-2a649",
     "2f851O-29f63 2f852O-2a084 2f853O-2a05f 2f854O-2a047 2f855O-2a0ca 2f856O-2a024 2f857O-2a026",
     "2f858O-29fac 2f859O-e375 2f85aO-29f68 2f85bO-29f64 2f85cO-29f56 2f85dO-29f43 2f85eO-29f3c",
     "2f85fO-29efd 2f860O-e1b8 2f861O-e177 2f862O-29e76 2f863O-29e48 2f864O-29e3d 2f865O-29e8d",
     "2f866O-29e00 2f867O-2c179 2f868O-2c16c 2f869O-29d61 2f86aM5b3e 2f86cO-dea4 2f86dO-29caa",
     "2f86eO-29c96 2f86fO-29c88 2f870O-29c7d 2f871O-dd59 2f872O-29c73 2f873O-29c6d 2f874O-29921",
     "2f875O-29c53 2f876O-2c0f5 2f877O-29c17 2f878O-29c0a 2f879O-29bb9 2f87aO-29bed 2f87bO-da97",
     "2f87cO-29b39 2f87dO-da97 2f87eO-29b10 2f87fO-29b14 2f880O-29b04 2f881O-29aa0 2f883O-2c054",
     "2f884O-29a87 2f885O-29a5d 2f886O-29a49 2f887O-29a1e 2f888O-2c026 2f889O-d706 2f88aO-2c00e",
     "2f88bO-299db 2f88cO-299d9 2f88dO-299d7 2f88eO-299c4 2f88fO-54fd 2f890O-29992 2f891M22331",
     "2f893O-27692 2f894M5f22 2f896O-2bfcf 2f897O-c5df 2f898O-96be 2f899O-29937 2f89aO-2992f",
     "2f89bO-2bfb8 2f89cO-29902 2f89dO-298d0 2f89eO-298c7 2f89fO-298a6 2f8a0O-2981f 2f8a1O-2bf67",
     "2f8a2O-2bf86 2f8a3O-2980f 2f8a4O-d1d0 2f8a5O-297de 2f8a6O-2975e 2f8a7O-2975b 2f8a8O-2975a",
     "2f8a9O-2975d 2f8aaO-29730 2f8abO-2971d 2f8acO-296fa 2f8adO-29709 2f8aeO-296ff 2f8afO-296d1",
     "2f8b0O-296be 2f8b1O-296bb 2f8b2O-296a2 2f8b3O-29698 2f8b4O-29657 2f8b5O-29604 2f8b6O-295e2",
     "2f8b7O-29567 2f8b8O-cdac 2f8b9O-2957c 2f8baO-295be 2f8bbO-29553 2f8bcO-29539 2f8bdO-294d9",
     "2f8beO-cccd 2f8bfO-2949d 2f8c0O-294fb 2f8c1O-29518 2f8c2O-2be94 2f8c3O-2945a 2f8c4O-29446",
     "2f8c5O-29428 2f8c6O-2944f 2f8c7O-2be5b 2f8c8O-29379 2f8c9O-2935d 2f8caO-c8c0 2f8cbO-292e8",
     "2f8ccO-291d4 2f8cdO-29284 2f8ceO-2bdb5 2f8cfO-2923e 2f8d0O-2bdc8 2f8d1O-2bded 2f8d2O-2a740",
     "2f8d3O-2a73e 2f8d4O-291d4 2f8d5O-29239 2f8d6O-27829 2f8d7O-2b4fe 2f8d8O-291c1 2f8d9O-291be",
     "2f8daO-291b9 2f8dbO-2917d 2f8dcO-29189 2f8ddO-c51a 2f8deO-2bd95 2f8dfO-290e5 2f8e0O-2915b",
     "2f8e1O-2908f 2f8e2O-2905d 2f8e3O-c476 2f8e4O-29056 2f8e5O-290c6 2f8e6O-28fd2 2f8e7O-2bd4a",
     "2f8e8O-28fa6 2f8e9O-28f46 2f8eaO-28f00 2f8ebO-28e43 2f8ecO-c249 2f8edO-28e12 2f8eeO-2bcd6",
     "2f8efO-28dce 2f8f0O-c049 2f8f1O-28d9d 2f8f2O-2bca4 2f8f3O-28d81 2f8f4O-28d55 2f8f5O-28d3b",
     "2f8f7O-be6a 2f8f8O-dbed 2f8f9O-bdff 2f8faO-28cac 2f8fbO-bc3f 2f8fcO-28c3d 2f8fdO-28c30",
     "2f8feO-28c97 2f8ffO-28be9 2f900O-28bc2 2f901O-28b8a 2f902O-28bc1 2f903O-28b9a 2f904O-28b8c",
     "2f905O-28b80 2f906O-bbe8 2f907O-28bd3 2f908O-28ad9 2f909O-28a9b 2f90aO-2bbd7 2f90bO-28a40",
     "2f90cO-28a45 2f90dO-ba3c 2f90eO-28b15 2f90fO-289a1 2f910O-b9b2 2f911O-b983 2f912O-2894c",
     "2f913O-288da 2f914O-288f6 2f915O-288fa 2f916O-2bb80 2f917O-288cd 2f918O-2889b 2f919O-288a2",
     "2f91aO-2886d 2f91bO-f3f6 2f91cO-287d7 2f91dO-b6ba 2f91eO-28782 2f91fO-b574 2f920O-286f8",
     "2f921O-286ec 2f922O-286d2 2f923O-b31b 2f924O-286a4 2f925O-28690 2f926O-b1f1 2f927O-b113",
     "2f928O-285ae 2f929O-2859e 2f92aO-2ba7e 2f92bO-28586 2f92cM3eb8 2f92eO-284e7 2f92fO-284d3",
     "2f930O-284bf 2f931O-284ac 2f932O-28468 2f933O-2ba18 2f934O-28410 2f935O-acff 2f936O-283f8",
     "2f937O-aca5 2f938O-283c8 2f939O-d79a 2f93aO-2832a 2f93bO-a99a 2f93cO-a984 2f93dO-a8f9",
     "2f93eO-2b942 2f93fO-2b937 2f940O-2824c 2f941O-a84e 2f942O-a850 2f943O-a82a 2f944O-a811",
     "2f945O-28227 2f946M771f 2f948O-281fe 2f949O-2b910 2f94aO-281bf 2f94bO-2b905 2f94cO-2b8b6",
     "2f94dO-a530 2f94eO-28100 2f94fO-280c3 2f950O-28084 2f951O-2b86e 2f952O-a32c 2f953O-27ffd",
     "2f954O-a2ba 2f955O-a290 2f956O-27fc7 2f957O-27f6c 2f958O-2b829 2f959O-27f19 2f95aO-27f10",
     "2f95bO-27f0c 2f95cO-9fe0 2f95dM25aa7 2f95fO-27e71 2f960O-2b75e 2f961O-9db6 2f962O-27d9c",
     "2f963O-27d9a 2f964O-2b73d 2f965O-9ce5 2f966O-27c94 2f967O-2b6c7 2f968O-27c80 2f969O-27c86",
     "2f96aO-27c6a 2f96bO-99e5 2f96cO-27c09 2f96dO-2b66c 2f96eO-27ba7 2f96fO-27b6d 2f970O-27b2b",
     "2f971O-2b63d 2f972O-974a 2f973O-972c 2f974O-2b61b 2f975O-969c 2f976O-279fc 2f977O-9639",
     "2f978O-279e3 2f979O-2797f 2f97aO-27975 2f97bO-94a1 2f97cO-9459 2f97dO-2791d 2f97eO-93d6",
     "2f97fO-2790f 2f980O-c621 2f981O-2b5ac 2f982O-278d0 2f983O-27880 2f984O-2b579 2f985O-27847",
     "2f986O-29ed1 2f987O-91e0 2f988O-91d3 2f989O-c5f6 2f98aO-c5ee 2f98bO-2778a 2f98cO-27788",
     "2f98dO-269ef 2f98eO-2b523 2f98fO-276fe 2f990O-27705 2f991O-276f4 2f992O-2a6df 2f993O-276e2",
     "2f994O-276e1 2f995O-276d8 2f996O-276b0 2f997O-8e5b 2f998O-276b3 2f999O-2767c 2f99aO-27637",
     "2f99bO-275ee 2f99cO-27679 2f99dO-275e0 2f99eO-275b7 2f99fO-27548 2f9a0O-2764d 2f9a1O-275d7",
     "2f9a2O-275d6 2f9a3O-275c7 2f9a4O-8d6e 2f9a5O-8c3a 2f9a6O-8cd1 2f9a7O-2b47c 2f9a8O-274b7",
     "2f9a9O-274b6 2f9aaO-27494 2f9abO-85e1 2f9acO-27448 2f9adO-8a81 2f9aeO-2b451 2f9afO-2b44e",
     "2f9b0O-89ff 2f9b1O-88df 2f9b2O-2b447 2f9b3O-27363 2f9b4O-27358 2f9b5O-2734e 2f9b6O-2734d",
     "2f9b7O-2730e 2f9b8O-27330 2f9b9O-272ab 2f9baO-272d8 2f9bbO-27242 2f9bcO-27294 2f9bdO-27252",
     "2f9beO-27238 2f9bfO-2b3e8 2f9c0O-271df 2f9c1O-271c0 2f9c2O-2b3c9 2f9c3O-27163 2f9c4O-27161",
     "2f9c5O-835e 2f9c6O-270ef 2f9c7O-270e9 2f9c8O-2b393 2f9c9O-270cf 2f9caO-2c50f 2f9cbO-811d",
     "2f9ccO-8066 2f9cdO-2b30f 2f9ceO-2b307 2f9cfO-26f2f 2f9d0O-26ee3 2f9d1O-26e47 2f9d2O-26d7d",
     "2f9d3O-7d2b 2f9d4O-26d29 2f9d5O-26d14 2f9d6O-26cbb 2f9d7O-26c60 2f9d8O-7aa9 2f9d9O-f1d5",
     "2f9daO-26c0f 2f9dbO-26c1f 2f9dcO-26bec 2f9ddO-f0ff 2f9deO-26b0a 2f9dfO-26aa7 2f9e0O-740e",
     "2f9e1O-73f4 2f9e2O-2694e 2f9e3O-268f2 2f9e4O-268d3 2f9e5O-72b7 2f9e6O-268cb 2f9e7O-267af",
     "2f9e8O-26711 2f9eaO-2676e 2f9ebO-265f2 2f9ecO-265d7 2f9edO-6df3 2f9eeO-26463 2f9efO-2b05a",
     "2f9f0O-26439 2f9f1O-6c7a 2f9f2O-2b00c 2f9f3O-26330 2f9f4O-29c42 2f9f5O-262d2 2f9f6O-68b1",
     "2f9f7O-67dd 2f9f8O-2af8a 2f9f9O-2af83 2f9faO-2621a 2f9fbO-65f1 2f9fcO-2af4a 2f9fdO-6567",
     "2f9feM980b 2fa00O-261d7 2fa01O-644b 2fa02O-26120 2fa03O-2aed0 2fa04O-260db 2fa05O-2605e",
     "2fa06O-26044 2fa07O-26009 2fa08O-2ae3a 2fa09O-5ed9 2fa0aO-25ef8 2fa0bO-25dcb 2fa0cO-25d0f",
     "2fa0dO-2ad3f 2fa0eO-2ad21 2fa0fO-25ca8 2fa10O-5942 2fa11O-2ad19 2fa12O-590d 2fa13O-5805",
     "2fa14O-5783 2fa15O-25b5a 2fa16O-2acc0 2fa17O-25b1e 2fa18O-25b1a 2fa19O-25b14 2fa1aO-25b0b",
     "2fa1bO-25b05 2fa1cO-25ae1 2fa1dO-541d 2fa1eX 30000V 3134bX 31350V 3347aX e0100I e01f0X"]

/-- The index of the last entry of the table, among those from `lo` to before `hi`, whose start
is at most `c`, given that the entry at `lo` starts at most at `c`. -/
def findEntry (t : Array (Nat × Rule)) (c lo hi : Nat) : Nat :=
  if _h : lo + 1 < hi then
    let mid := (lo + hi) / 2
    if (t.getD mid (0, .valid)).1 ≤ c then findEntry t c mid hi else findEntry t c lo mid
  else lo
termination_by hi - lo

/-- The status of a code point. -/
def status (c : Char) : Status :=
  let t := mappingTable
  let (start, rule) := t.getD (findEntry t c.toNat 0 t.size) (0, .valid)
  rule.status start c.toNat

/-- The marks, as ranges. -/
def marks : List (Nat × Nat) := Text.rangesOfLines
  ["300-36f 483-489 591-5bd 5bf 5c1-5c2 5c4-5c5 5c7 610-61a 64b-65f 670 6d6-6dc 6df-6e4 6e7-6e8",
   "6ea-6ed 711 730-74a 7a6-7b0 7eb-7f3 7fd 816-819 81b-823 825-827 829-82d 859-85b 897-89f",
   "8ca-8e1 8e3-903 93a-93c 93e-94f 951-957 962-963 981-983 9bc 9be-9c4 9c7-9c8 9cb-9cd 9d7",
   "9e2-9e3 9fe a01-a03 a3c a3e-a42 a47-a48 a4b-a4d a51 a70-a71 a75 a81-a83 abc abe-ac5 ac7-ac9",
   "acb-acd ae2-ae3 afa-aff b01-b03 b3c b3e-b44 b47-b48 b4b-b4d b55-b57 b62-b63 b82 bbe-bc2",
   "bc6-bc8 bca-bcd bd7 c00-c04 c3c c3e-c44 c46-c48 c4a-c4d c55-c56 c62-c63 c81-c83 cbc cbe-cc4",
   "cc6-cc8 cca-ccd cd5-cd6 ce2-ce3 cf3 d00-d03 d3b-d3c d3e-d44 d46-d48 d4a-d4d d57 d62-d63",
   "d81-d83 dca dcf-dd4 dd6 dd8-ddf df2-df3 e31 e34-e3a e47-e4e eb1 eb4-ebc ec8-ece f18-f19 f35",
   "f37 f39 f3e-f3f f71-f84 f86-f87 f8d-f97 f99-fbc fc6 102b-103e 1056-1059 105e-1060 1062-1064",
   "1067-106d 1071-1074 1082-108d 108f 109a-109d 135d-135f 1712-1715 1732-1734 1752-1753",
   "1772-1773 17b4-17d3 17dd 180b-180d 180f 1885-1886 18a9 1920-192b 1930-193b 1a17-1a1b",
   "1a55-1a5e 1a60-1a7c 1a7f 1ab0-1add 1ae0-1aeb 1b00-1b04 1b34-1b44 1b6b-1b73 1b80-1b82",
   "1ba1-1bad 1be6-1bf3 1c24-1c37 1cd0-1cd2 1cd4-1ce8 1ced 1cf4 1cf7-1cf9 1dc0-1dff 20d0-20f0",
   "2cef-2cf1 2d7f 2de0-2dff 302a-302f 3099-309a a66f-a672 a674-a67d a69e-a69f a6f0-a6f1 a802",
   "a806 a80b a823-a827 a82c a880-a881 a8b4-a8c5 a8e0-a8f1 a8ff a926-a92d a947-a953 a980-a983",
   "a9b3-a9c0 a9e5 aa29-aa36 aa43 aa4c-aa4d aa7b-aa7d aab0 aab2-aab4 aab7-aab8 aabe-aabf aac1",
   "aaeb-aaef aaf5-aaf6 abe3-abea abec-abed fb1e fe00-fe0f fe20-fe2f 101fd 102e0 10376-1037a",
   "10a01-10a03 10a05-10a06 10a0c-10a0f 10a38-10a3a 10a3f 10ae5-10ae6 10d24-10d27 10d69-10d6d",
   "10eab-10eac 10efa-10eff 10f46-10f50 10f82-10f85 11000-11002 11038-11046 11070 11073-11074",
   "1107f-11082 110b0-110ba 110c2 11100-11102 11127-11134 11145-11146 11173 11180-11182",
   "111b3-111c0 111c9-111cc 111ce-111cf 1122c-11237 1123e 11241 112df-112ea 11300-11303",
   "1133b-1133c 1133e-11344 11347-11348 1134b-1134d 11357 11362-11363 11366-1136c 11370-11374",
   "113b8-113c0 113c2 113c5 113c7-113ca 113cc-113d0 113d2 113e1-113e2 11435-11446 1145e",
   "114b0-114c3 115af-115b5 115b8-115c0 115dc-115dd 11630-11640 116ab-116b7 1171d-1172b",
   "1182c-1183a 11930-11935 11937-11938 1193b-1193e 11940 11942-11943 119d1-119d7 119da-119e0",
   "119e4 11a01-11a0a 11a33-11a39 11a3b-11a3e 11a47 11a51-11a5b 11a8a-11a99 11b60-11b67",
   "11c2f-11c36 11c38-11c3f 11c92-11ca7 11ca9-11cb6 11d31-11d36 11d3a 11d3c-11d3d 11d3f-11d45",
   "11d47 11d8a-11d8e 11d90-11d91 11d93-11d97 11ef3-11ef6 11f00-11f01 11f03 11f34-11f3a",
   "11f3e-11f42 11f5a 13440 13447-13455 1611e-1612f 16af0-16af4 16b30-16b36 16f4f 16f51-16f87",
   "16f8f-16f92 16fe4 16ff0-16ff1 1bc9d-1bc9e 1cf00-1cf2d 1cf30-1cf46 1d165-1d169 1d16d-1d172",
   "1d17b-1d182 1d185-1d18b 1d1aa-1d1ad 1d242-1d244 1da00-1da36 1da3b-1da6c 1da75 1da84",
   "1da9b-1da9f 1daa1-1daaf 1e000-1e006 1e008-1e018 1e01b-1e021 1e023-1e024 1e026-1e02a 1e08f",
   "1e130-1e136 1e2ae 1e2ec-1e2ef 1e4ec-1e4ef 1e5ee-1e5ef 1e6e3 1e6e6 1e6ee-1e6ef 1e6f5",
   "1e8d0-1e8d6 1e944-1e94a e0100-e01ef"]

/-- Whether a character is a mark. -/
def isMark (c : Char) : Bool := Text.inRanges c.toNat marks

/-- The viramas. -/
def viramas : List Nat := (viramaLines.flatMap fun l => l.splitOn " ").filterMap fun w =>
    hexDigits w.toList
where
  viramaLines : List String :=
    ["94d 9cd a4d acd b4d bcd c4d ccd d3b d3c d4d dca e3a eba f84 1039 103a 1714 1715 1734 17d2",
     "1a60 1b44 1baa 1bab 1bf2 1bf3 2d7f a806 a82c a8c4 a953 a9c0 aaf6 abed 10a3f 11046 11070",
     "1107f 110b9 11133 11134 111c0 11235 112ea 1134d 11442 114c2 115bf 1163f 116b6 1172b 11839",
     "1193d 1193e 119e0 11a34 11a47 11a99 11c3f 11d44 11d45 11d97"]

/-- Whether a character is a virama. -/
def isVirama (c : Char) : Bool := viramas.contains c.toNat

end StreamDispatch.Net.Idna
