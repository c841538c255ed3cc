import Scopemark.Unicode.Latest

namespace Scopemark.Unicode

/-- Characters that are moved alike: those from `first` to `last`, `step` apart, go to those from
`target` on. -/
structure CaseRun where
  first : Nat
  last : Nat
  step : Nat
  target : Nat
deriving Inhabited

namespace CaseRun

def read (cs : List Char) : CaseRun :=
  let (source, target) := CharSet.cutAt '>' cs
  let (range, stride) := CharSet.cutAt '/' source
  let (first, last) := CharSet.cutAt '-' range
  { first := Text.hexValue first
    last := Text.hexValue (if last.isEmpty then first else last)
    step := if stride.isEmpty then 1 else 2
    target := Text.hexValue target }

def readAll (table : String) : List CaseRun :=
  ((table.splitToList fun c => c == ' ' || c == '\n').filter fun s => !s.isEmpty).map
    fun s => read s.toList

def image? (r : CaseRun) (n : Nat) : Option Nat :=
  if r.first ≤ n ∧ n ≤ r.last ∧ (n - r.first) % r.step = 0 then some (r.target + (n - r.first))
  else none

def pairs (r : CaseRun) : List (Nat × Nat) :=
  (List.range ((r.last - r.first) / r.step + 1)).map fun i =>
    (r.first + i * r.step, r.target + i * r.step)

end CaseRun

def foldRuns : List CaseRun := CaseRun.readAll "
61-7A>41 E0-F6>C0 F8-FE>D8 101-12F/2>100 133-137/2>132 13A-148/2>139 14B-177/2>14A 178>FF
17A-17E/2>179 17F>53 183-185/2>182 188>187 18C>18B 192>191 199>198 1A1-1A5/2>1A0 1A8>1A7 1AD>1AC
1B0>1AF 1B4-1B6/2>1B3 1B9>1B8 1BD>1BC 1C5>1C4 1C6>1C4 1C8>1C7 1C9>1C7 1CB>1CA 1CC>1CA
1CE-1DC/2>1CD 1DD>18E 1DF-1EF/2>1DE 1F2>1F1 1F3>1F1 1F5>1F4 1F6>195 1F7>1BF 1F9-21F/2>1F8 220>19E
223-233/2>222 23C>23B 23D>19A 242>241 243>180 247-24F/2>246 253>181 254>186 256-257>189 259>18F
25B>190 260>193 263>194 268>197 269>196 26F>19C 272>19D 275>19F 280>1A6 283>1A9 288>1AE 289>244
28A-28B>1B1 28C>245 292>1B7 371-373/2>370 377>376 399>345 39C>B5 3AC>386 3AD-3AF>388 3B1-3B8>391
3B9>345 3BA-3BB>39A 3BC>B5 3BD-3C1>39D 3C2>3A3 3C3-3CB>3A3 3CC>38C 3CD-3CE>38E 3D0>392 3D1>398
3D5>3A6 3D6>3A0 3D7>3CF 3D9-3EF/2>3D8 3F0>39A 3F1>3A1 3F3>37F 3F4>398 3F5>395 3F8>3F7 3F9>3F2
3FB>3FA 3FD-3FF>37B 430-44F>410 450-45F>400 461-481/2>460 48B-4BF/2>48A 4C2-4CE/2>4C1 4CF>4C0
4D1-52F/2>4D0 561-586>531 13F8-13FD>13F0 1C80>412 1C81>414 1C82>41E 1C83-1C84>421 1C85>422
1C86>42A 1C87>462 1C8A>1C89 1C90-1CBA>10D0 1CBD-1CBF>10FD 1E01-1E95/2>1E00 1E9B>1E60 1E9E>DF
1EA1-1EFF/2>1EA0 1F08-1F0F>1F00 1F18-1F1D>1F10 1F28-1F2F>1F20 1F38-1F3F>1F30 1F48-1F4D>1F40
1F59-1F5F/2>1F51 1F68-1F6F>1F60 1F88-1F8F>1F80 1F98-1F9F>1F90 1FA8-1FAF>1FA0 1FB8-1FB9>1FB0
1FBA-1FBB>1F70 1FBC>1FB3 1FBE>345 1FC8-1FCB>1F72 1FCC>1FC3 1FD3>390 1FD8-1FD9>1FD0 1FDA-1FDB>1F76
1FE3>3B0 1FE8-1FE9>1FE0 1FEA-1FEB>1F7A 1FEC>1FE5 1FF8-1FF9>1F78 1FFA-1FFB>1F7C 1FFC>1FF3 2126>3A9
212A>4B 212B>C5 214E>2132 2170-217F>2160 2184>2183 24D0-24E9>24B6 2C30-2C5F>2C00 2C61>2C60
2C62>26B 2C63>1D7D 2C64>27D 2C65>23A 2C66>23E 2C68-2C6C/2>2C67 2C6D>251 2C6E>271 2C6F>250 2C70>252
2C73>2C72 2C76>2C75 2C7E-2C7F>23F 2C81-2CE3/2>2C80 2CEC-2CEE/2>2CEB 2CF3>2CF2 2D00-2D25>10A0
2D27>10C7 2D2D>10CD A641-A649/2>A640 A64A>1C88 A64B>1C88 A64D-A66D/2>A64C A681-A69B/2>A680
A723-A72F/2>A722 A733-A76F/2>A732 A77A-A77C/2>A779 A77D>1D79 A77F-A787/2>A77E A78C>A78B A78D>265
A791-A793/2>A790 A797-A7A9/2>A796 A7AA>266 A7AB>25C A7AC>261 A7AD>26C A7AE>26A A7B0>29E A7B1>287
A7B2>29D A7B5-A7C3/2>A7B4 A7C4>A794 A7C5>282 A7C6>1D8E A7C8-A7CA/2>A7C7 A7CB>264 A7CD>A7CC
A7D1>A7D0 A7D7-A7DB/2>A7D6 A7DC>19B A7F6>A7F5 AB53>A7B3 AB70-ABBF>13A0 FB06>FB05 FF41-FF5A>FF21
10428-1044F>10400 104D8-104FB>104B0 10597-105A1>10570 105A3-105B1>1057C 105B3-105B9>1058C
105BB-105BC>10594 10CC0-10CF2>10C80 10D70-10D85>10D50 118C0-118DF>118A0 16E60-16E7F>16E40
1E922-1E943>1E900"

def foldPairs : List (Nat × Nat) := foldRuns.flatMap CaseRun.pairs

def foldClosure (s : CharSet) : CharSet :=
  let firsts := foldPairs.filterMap fun (c, first) =>
    if s.containsCode c then some (first, first) else none
  let grown := s.union (.ofRanges firsts)
  grown.union (.ofRanges (foldPairs.filterMap fun (c, first) =>
    if grown.containsCode first then some (c, c) else none))

def lowerRuns : List CaseRun := CaseRun.readAll "
41-5A>61 C0-D6>E0 D8-DE>F8 100-12E/2>101 132-136/2>133 139-147/2>13A 14A-176/2>14B 178>FF
179-17D/2>17A 181>253 182>183 184>185 186>254 187>188 189-18A>256 18B>18C 18E>1DD 18F>259 190>25B
191>192 193>260 194>263 196>269 197>268 198>199 19C>26F 19D>272 19F>275 1A0-1A4/2>1A1 1A6>280
1A7>1A8 1A9>283 1AC>1AD 1AE>288 1AF>1B0 1B1-1B2>28A 1B3>1B4 1B5>1B6 1B7>292 1B8>1B9 1BC>1BD
1C4>1C6 1C5>1C6 1C7>1C9 1C8>1C9 1CA>1CC 1CB-1DB/2>1CC 1DE-1EE/2>1DF 1F1>1F3 1F2>1F3 1F4>1F5
1F6>195 1F7>1BF 1F8-21E/2>1F9 220>19E 222-232/2>223 23A>2C65 23B>23C 23D>19A 23E>2C66 241>242
243>180 244>289 245>28C 246-24E/2>247 370>371 372>373 376>377 37F>3F3 386>3AC 388-38A>3AD 38C>3CC
38E-38F>3CD 391-3A1>3B1 3A3-3AB>3C3 3CF>3D7 3D8-3EE/2>3D9 3F4>3B8 3F7>3F8 3F9>3F2 3FA>3FB
3FD-3FF>37B 400-40F>450 410-42F>430 460-480/2>461 48A-4BE/2>48B 4C0>4CF 4C1-4CD/2>4C2
4D0-52E/2>4D1 531-556>561 10A0-10C5>2D00 10C7>2D27 10CD>2D2D 13A0-13EF>AB70 13F0-13F5>13F8
1C89>1C8A 1C90-1CBA>10D0 1CBD-1CBF>10FD 1E00-1E94/2>1E01 1E9E>DF 1EA0-1EFE/2>1EA1 1F08-1F0F>1F00
1F18-1F1D>1F10 1F28-1F2F>1F20 1F38-1F3F>1F30 1F48-1F4D>1F40 1F59-1F5F/2>1F51 1F68-1F6F>1F60
1F88-1F8F>1F80 1F98-1F9F>1F90 1FA8-1FAF>1FA0 1FB8-1FB9>1FB0 1FBA-1FBB>1F70 1FBC>1FB3
1FC8-1FCB>1F72 1FCC>1FC3 1FD8-1FD9>1FD0 1FDA-1FDB>1F76 1FE8-1FE9>1FE0 1FEA-1FEB>1F7A 1FEC>1FE5
1FF8-1FF9>1F78 1FFA-1FFB>1F7C 1FFC>1FF3 2126>3C9 212A>6B 212B>E5 2132>214E 2160-216F>2170
2183>2184 24B6-24CF>24D0 2C00-2C2F>2C30 2C60>2C61 2C62>26B 2C63>1D7D 2C64>27D 2C67-2C6B/2>2C68
2C6D>251 2C6E>271 2C6F>250 2C70>252 2C72>2C73 2C75>2C76 2C7E-2C7F>23F 2C80-2CE2/2>2C81 2CEB>2CEC
2CED>2CEE 2CF2>2CF3 A640-A66C/2>A641 A680-A69A/2>A681 A722-A72E/2>A723 A732-A76E/2>A733 A779>A77A
A77B>A77C A77D>1D79 A77E-A786/2>A77F A78B>A78C A78D>265 A790>A791 A792>A793 A796-A7A8/2>A797
A7AA>266 A7AB>25C A7AC>261 A7AD>26C A7AE>26A A7B0>29E A7B1>287 A7B2>29D A7B3>AB53 A7B4-A7C2/2>A7B5
A7C4>A794 A7C5>282 A7C6>1D8E A7C7>A7C8 A7C9>A7CA A7CB>264 A7CC-A7DA/2>A7CD A7DC>19B A7F5>A7F6
FF21-FF3A>FF41 10400-10427>10428 104B0-104D3>104D8 10570-1057A>10597 1057C-1058A>105A3
1058C-10592>105B3 10594-10595>105BB 10C80-10CB2>10CC0 10D50-10D65>10D70 118A0-118BF>118C0
16E40-16E5F>16E60 16EA0-16EB8>16EBB 1E900-1E921>1E922"

def lowerChar (c : Char) : List Char :=
  if c.toNat < 128 then [c.toLower]
  else if c.toNat = 0x130 then ['i', Char.ofNat 0x307]
  else match lowerRuns.findSome? fun r => r.image? c.toNat with
    | some n => [Char.ofNat n]
    | none => [c]

def meetsCased (cs : List Char) : Bool :=
  match cs.dropWhile Latest.caseIgnorable.contains with
  | [] => false
  | c :: _ => Latest.cased.contains c

/-- The lower case form of the sigma between `before`, given backwards, and `after`: it has a form of
its own at the end of a word. -/
def lowerSigma (before after : List Char) : Char :=
  if meetsCased before && !meetsCased after then Char.ofNat 0x3C2 else Char.ofNat 0x3C3

def lowerFrom (before : List Char) : List Char → List Char
  | [] => []
  | c :: rest =>
    (if c.toNat = 0x3A3 then [lowerSigma before rest] else lowerChar c) ++ lowerFrom (c :: before) rest

def lower (s : String) : String := .ofList (lowerFrom [] s.toList)

end Scopemark.Unicode
