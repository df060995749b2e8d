import Gatehouse.Text.CodeRanges

/-! # Lower case

The full, language-independent lower-casing of Unicode. Each character has its own image, with two
exceptions: `İ` becomes `i` and a combining dot, and a capital sigma at the end of a word becomes
`ς`. A sigma ends a word when a cased letter precedes it and none follows, case-ignorable characters
between them not counting. -/

namespace Gatehouse.Text

/-- A run of capitals whose small letters lie at one distance: every code point from `first` to
`last`, or every second one. -/
structure CaseRun where
  first : Nat
  last : Nat
  stride : Nat
  distance : Int

/-- A run from its text: `first-last:distance`, or `first-last/distance` for every second one. -/
def CaseRun.ofText (s : String) : CaseRun :=
  match s.splitOn ":", s.splitOn "/" with
  | [range, d], _ => let r := CodeRange.ofText range; ⟨r.first, r.last, 1, d.toInt?.getD 0⟩
  | _, [range, d] => let r := CodeRange.ofText range; ⟨r.first, r.last, 2, d.toInt?.getD 0⟩
  | _, _ => ⟨1, 0, 1, 0⟩

/-- The runs that the lines of a table write. -/
def caseRunsOfLines (lines : List String) : Array CaseRun :=
  (lines.flatMap fun line => (line.splitOn " ").map CaseRun.ofText).toArray

/-- Every capital outside ASCII that has a small letter of its own, in runs. -/
def caseRuns : Array CaseRun := caseRunsOfLines
  ["c0-d6:32 d8-de:32 100-12e/1 132-136/1 139-147/1 14a-176/1 178-178:-121 179-17d/1 181-181:210",
    "182-184/1 186-186:206 187-187:1 189-18a:205 18b-18b:1 18e-18e:79 18f-18f:202 190-190:203",
    "191-191:1 193-193:205 194-194:207 196-196:211 197-197:209 198-198:1 19c-19c:211 19d-19d:213",
    "19f-19f:214 1a0-1a4/1 1a6-1a6:218 1a7-1a7:1 1a9-1a9:218 1ac-1ac:1 1ae-1ae:218 1af-1af:1",
    "1b1-1b2:217 1b3-1b5/1 1b7-1b7:219 1b8-1b8:1 1bc-1bc:1 1c4-1c4:2 1c5-1c5:1 1c7-1c7:2",
    "1c8-1c8:1 1ca-1ca:2 1cb-1db/1 1de-1ee/1 1f1-1f1:2 1f2-1f4/1 1f6-1f6:-97 1f7-1f7:-56",
    "1f8-21e/1 220-220:-130 222-232/1 23a-23a:10795 23b-23b:1 23d-23d:-163 23e-23e:10792",
    "241-241:1 243-243:-195 244-244:69 245-245:71 246-24e/1 370-372/1 376-376:1 37f-37f:116",
    "386-386:38 388-38a:37 38c-38c:64 38e-38f:63 391-3a1:32 3a3-3ab:32 3cf-3cf:8 3d8-3ee/1",
    "3f4-3f4:-60 3f7-3f7:1 3f9-3f9:-7 3fa-3fa:1 3fd-3ff:-130 400-40f:80 410-42f:32 460-480/1",
    "48a-4be/1 4c0-4c0:15 4c1-4cd/1 4d0-52e/1 531-556:48 10a0-10c5:7264 10c7-10c7:7264",
    "10cd-10cd:7264 13a0-13ef:38864 13f0-13f5:8 1c89-1c89:1 1c90-1cba:-3008 1cbd-1cbf:-3008",
    "1e00-1e94/1 1e9e-1e9e:-7615 1ea0-1efe/1 1f08-1f0f:-8 1f18-1f1d:-8 1f28-1f2f:-8 1f38-1f3f:-8",
    "1f48-1f4d:-8 1f59-1f5f/-8 1f68-1f6f:-8 1f88-1f8f:-8 1f98-1f9f:-8 1fa8-1faf:-8 1fb8-1fb9:-8",
    "1fba-1fbb:-74 1fbc-1fbc:-9 1fc8-1fcb:-86 1fcc-1fcc:-9 1fd8-1fd9:-8 1fda-1fdb:-100",
    "1fe8-1fe9:-8 1fea-1feb:-112 1fec-1fec:-7 1ff8-1ff9:-128 1ffa-1ffb:-126 1ffc-1ffc:-9",
    "2126-2126:-7517 212a-212a:-8383 212b-212b:-8262 2132-2132:28 2160-216f:16 2183-2183:1",
    "24b6-24cf:26 2c00-2c2f:48 2c60-2c60:1 2c62-2c62:-10743 2c63-2c63:-3814 2c64-2c64:-10727",
    "2c67-2c6b/1 2c6d-2c6d:-10780 2c6e-2c6e:-10749 2c6f-2c6f:-10783 2c70-2c70:-10782 2c72-2c72:1",
    "2c75-2c75:1 2c7e-2c7f:-10815 2c80-2ce2/1 2ceb-2ced/1 2cf2-2cf2:1 a640-a66c/1 a680-a69a/1",
    "a722-a72e/1 a732-a76e/1 a779-a77b/1 a77d-a77d:-35332 a77e-a786/1 a78b-a78b:1",
    "a78d-a78d:-42280 a790-a792/1 a796-a7a8/1 a7aa-a7aa:-42308 a7ab-a7ab:-42319 a7ac-a7ac:-42315",
    "a7ad-a7ad:-42305 a7ae-a7ae:-42308 a7b0-a7b0:-42258 a7b1-a7b1:-42282 a7b2-a7b2:-42261",
    "a7b3-a7b3:928 a7b4-a7c2/1 a7c4-a7c4:-48 a7c5-a7c5:-42307 a7c6-a7c6:-35384 a7c7-a7c9/1",
    "a7cb-a7cb:-42343 a7cc-a7da/1 a7dc-a7dc:-42561 a7f5-a7f5:1 ff21-ff3a:32 10400-10427:40",
    "104b0-104d3:40 10570-1057a:39 1057c-1058a:39 1058c-10592:39 10594-10595:39 10c80-10cb2:64",
    "10d50-10d65:32 118a0-118bf:32 16e40-16e5f:32 16ea0-16eb8:27 1e900-1e921:34"]

/-- The Unicode property `Cased`. -/
def casedRanges : Array CodeRange := rangesOfLines
  ["41-5a 61-7a aa b5 ba c0-d6 d8-f6 f8-1ba 1bc-1bf 1c4-293 296-2b8 2c0-2c1 2e0-2e4 345 370-373",
    "376-377 37a-37d 37f 386 388-38a 38c 38e-3a1 3a3-3f5 3f7-481 48a-52f 531-556 560-588",
    "10a0-10c5 10c7 10cd 10d0-10fa 10fc-10ff 13a0-13f5 13f8-13fd 1c80-1c8a 1c90-1cba 1cbd-1cbf",
    "1d00-1dbf 1e00-1f15 1f18-1f1d 1f20-1f45 1f48-1f4d 1f50-1f57 1f59 1f5b 1f5d 1f5f-1f7d",
    "1f80-1fb4 1fb6-1fbc 1fbe 1fc2-1fc4 1fc6-1fcc 1fd0-1fd3 1fd6-1fdb 1fe0-1fec 1ff2-1ff4",
    "1ff6-1ffc 2071 207f 2090-209c 2102 2107 210a-2113 2115 2119-211d 2124 2126 2128 212a-212d",
    "212f-2134 2139 213c-213f 2145-2149 214e 2160-217f 2183-2184 24b6-24e9 2c00-2ce4 2ceb-2cee",
    "2cf2-2cf3 2d00-2d25 2d27 2d2d a640-a66d a680-a69d a722-a787 a78b-a78e a790-a7dc a7f1-a7f6",
    "a7f8-a7fa ab30-ab5a ab5c-ab69 ab70-abbf fb00-fb06 fb13-fb17 ff21-ff3a ff41-ff5a 10400-1044f",
    "104b0-104d3 104d8-104fb 10570-1057a 1057c-1058a 1058c-10592 10594-10595 10597-105a1",
    "105a3-105b1 105b3-105b9 105bb-105bc 10780 10783-10785 10787-107b0 107b2-107ba 10c80-10cb2",
    "10cc0-10cf2 10d50-10d65 10d70-10d85 118a0-118df 16e40-16e7f 16ea0-16eb8 16ebb-16ed3",
    "1d400-1d454 1d456-1d49c 1d49e-1d49f 1d4a2 1d4a5-1d4a6 1d4a9-1d4ac 1d4ae-1d4b9 1d4bb",
    "1d4bd-1d4c3 1d4c5-1d505 1d507-1d50a 1d50d-1d514 1d516-1d51c 1d51e-1d539 1d53b-1d53e",
    "1d540-1d544 1d546 1d54a-1d550 1d552-1d6a5 1d6a8-1d6c0 1d6c2-1d6da 1d6dc-1d6fa 1d6fc-1d714",
    "1d716-1d734 1d736-1d74e 1d750-1d76e 1d770-1d788 1d78a-1d7a8 1d7aa-1d7c2 1d7c4-1d7cb",
    "1df00-1df09 1df0b-1df1e 1df25-1df2a 1e030-1e06d 1e900-1e943 1f130-1f149 1f150-1f169",
    "1f170-1f189"]

/-- The Unicode property `Case_Ignorable`. -/
def caseIgnorableRanges : Array CodeRange := rangesOfLines
  ["27 2e 3a 5e 60 a8 ad af b4 b7-b8 2b0-36f 374-375 37a 384-385 387 483-489 559 55f 591-5bd 5bf",
    "5c1-5c2 5c4-5c5 5c7 5f4 600-605 610-61a 61c 640 64b-65f 670 6d6-6dd 6df-6e8 6ea-6ed 70f 711",
    "730-74a 7a6-7b0 7eb-7f5 7fa 7fd 816-82d 859-85b 888 890-891 897-89f 8c9-902 93a 93c 941-948",
    "94d 951-957 962-963 971 981 9bc 9c1-9c4 9cd 9e2-9e3 9fe a01-a02 a3c a41-a42 a47-a48 a4b-a4d",
    "a51 a70-a71 a75 a81-a82 abc ac1-ac5 ac7-ac8 acd ae2-ae3 afa-aff b01 b3c b3f b41-b44 b4d",
    "b55-b56 b62-b63 b82 bc0 bcd c00 c04 c3c c3e-c40 c46-c48 c4a-c4d c55-c56 c62-c63 c81 cbc cbf",
    "cc6 ccc-ccd ce2-ce3 d00-d01 d3b-d3c d41-d44 d4d d62-d63 d81 dca dd2-dd4 dd6 e31 e34-e3a",
    "e46-e4e eb1 eb4-ebc ec6 ec8-ece f18-f19 f35 f37 f39 f71-f7e f80-f84 f86-f87 f8d-f97 f99-fbc",
    "fc6 102d-1030 1032-1037 1039-103a 103d-103e 1058-1059 105e-1060 1071-1074 1082 1085-1086",
    "108d 109d 10fc 135d-135f 1712-1714 1732-1733 1752-1753 1772-1773 17b4-17b5 17b7-17bd 17c6",
    "17c9-17d3 17d7 17dd 180b-180f 1843 1885-1886 18a9 1920-1922 1927-1928 1932 1939-193b",
    "1a17-1a18 1a1b 1a56 1a58-1a5e 1a60 1a62 1a65-1a6c 1a73-1a7c 1a7f 1aa7 1ab0-1add 1ae0-1aeb",
    "1b00-1b03 1b34 1b36-1b3a 1b3c 1b42 1b6b-1b73 1b80-1b81 1ba2-1ba5 1ba8-1ba9 1bab-1bad 1be6",
    "1be8-1be9 1bed 1bef-1bf1 1c2c-1c33 1c36-1c37 1c78-1c7d 1cd0-1cd2 1cd4-1ce0 1ce2-1ce8 1ced",
    "1cf4 1cf8-1cf9 1d2c-1d6a 1d78 1d9b-1dff 1fbd 1fbf-1fc1 1fcd-1fcf 1fdd-1fdf 1fed-1fef",
    "1ffd-1ffe 200b-200f 2018-2019 2024 2027 202a-202e 2060-2064 2066-206f 2071 207f 2090-209c",
    "20d0-20f0 2c7c-2c7d 2cef-2cf1 2d6f 2d7f 2de0-2dff 2e2f 3005 302a-302d 3031-3035 303b",
    "3099-309e 30fc-30fe a015 a4f8-a4fd a60c a66f-a672 a674-a67d a67f a69c-a69f a6f0-a6f1",
    "a700-a721 a770 a788-a78a a7f1-a7f4 a7f8-a7f9 a802 a806 a80b a825-a826 a82c a8c4-a8c5",
    "a8e0-a8f1 a8ff a926-a92d a947-a951 a980-a982 a9b3 a9b6-a9b9 a9bc-a9bd a9cf a9e5-a9e6",
    "aa29-aa2e aa31-aa32 aa35-aa36 aa43 aa4c aa70 aa7c aab0 aab2-aab4 aab7-aab8 aabe-aabf aac1",
    "aadd aaec-aaed aaf3-aaf4 aaf6 ab5b-ab5f ab69-ab6b abe5 abe8 abed fb1e fbb2-fbc2 fe00-fe0f",
    "fe13 fe20-fe2f fe52 fe55 feff ff07 ff0e ff1a ff3e ff40 ff70 ff9e-ff9f ffe3 fff9-fffb 101fd",
    "102e0 10376-1037a 10780-10785 10787-107b0 107b2-107ba 10a01-10a03 10a05-10a06 10a0c-10a0f",
    "10a38-10a3a 10a3f 10ae5-10ae6 10d24-10d27 10d4e 10d69-10d6d 10d6f 10eab-10eac 10ec5",
    "10efa-10eff 10f46-10f50 10f82-10f85 11001 11038-11046 11070 11073-11074 1107f-11081",
    "110b3-110b6 110b9-110ba 110bd 110c2 110cd 11100-11102 11127-1112b 1112d-11134 11173",
    "11180-11181 111b6-111be 111c9-111cc 111cf 1122f-11231 11234 11236-11237 1123e 11241 112df",
    "112e3-112ea 11300-11301 1133b-1133c 11340 11366-1136c 11370-11374 113bb-113c0 113ce 113d0",
    "113d2 113e1-113e2 11438-1143f 11442-11444 11446 1145e 114b3-114b8 114ba 114bf-114c0",
    "114c2-114c3 115b2-115b5 115bc-115bd 115bf-115c0 115dc-115dd 11633-1163a 1163d 1163f-11640",
    "116ab 116ad 116b0-116b5 116b7 1171d 1171f 11722-11725 11727-1172b 1182f-11837 11839-1183a",
    "1193b-1193c 1193e 11943 119d4-119d7 119da-119db 119e0 11a01-11a0a 11a33-11a38 11a3b-11a3e",
    "11a47 11a51-11a56 11a59-11a5b 11a8a-11a96 11a98-11a99 11b60 11b62-11b64 11b66 11c30-11c36",
    "11c38-11c3d 11c3f 11c92-11ca7 11caa-11cb0 11cb2-11cb3 11cb5-11cb6 11d31-11d36 11d3a",
    "11d3c-11d3d 11d3f-11d45 11d47 11d90-11d91 11d95 11d97 11dd9 11ef3-11ef4 11f00-11f01",
    "11f36-11f3a 11f40 11f42 11f5a 13430-13440 13447-13455 1611e-16129 1612d-1612f 16af0-16af4",
    "16b30-16b36 16b40-16b43 16d40-16d42 16d6b-16d6c 16f4f 16f8f-16f9f 16fe0-16fe1 16fe3-16fe4",
    "16ff2-16ff3 1aff0-1aff3 1aff5-1affb 1affd-1affe 1bc9d-1bc9e 1bca0-1bca3 1cf00-1cf2d",
    "1cf30-1cf46 1d167-1d169 1d173-1d182 1d185-1d18b 1d1aa-1d1ad 1d242-1d244 1da00-1da36",
    "1da3b-1da6c 1da75 1da84 1da9b-1da9f 1daa1-1daaf 1e000-1e006 1e008-1e018 1e01b-1e021",
    "1e023-1e024 1e026-1e02a 1e030-1e06d 1e08f 1e130-1e13d 1e2ae 1e2ec-1e2ef 1e4eb-1e4ef",
    "1e5ee-1e5ef 1e6e3 1e6e6 1e6ee-1e6ef 1e6f5 1e6ff 1e8d0-1e8d6 1e944-1e94b 1f3fb-1f3ff e0001",
    "e0020-e007f e0100-e01ef"]

/-- A letter with case. -/
def isCased (c : Char) : Bool := inRanges casedRanges c

/-- A character that word ends look through. -/
def isCaseIgnorable (c : Char) : Bool := inRanges caseIgnorableRanges c

/-- The small letter of a character, where it has one of its own. -/
def lowerChar (c : Char) : Char :=
  if c.toNat < 0x80 then c.toLower
  else
    match caseRuns.find? fun r =>
      r.first ≤ c.toNat && c.toNat ≤ r.last && (c.toNat - r.first) % r.stride == 0 with
    | some r => Char.ofNat (c.toNat + r.distance).toNat
    | none => c

/-- The next character that is not case-ignorable has case. -/
def casedAhead (cs : List Char) : Bool :=
  match cs.dropWhile isCaseIgnorable with
  | c :: _ => isCased c
  | [] => false

/-- Lower case of the characters that follow `before`, which is in reverse order. -/
def lowerAfter (before : List Char) : List Char → List Char
  | [] => []
  | c :: rest =>
    let image :=
      if c = 'Σ' then
        if casedAhead before && !casedAhead rest then ['ς'] else ['σ']
      else if c = 'İ' then ['i', Char.ofNat 0x307]
      else [lowerChar c]
    image ++ lowerAfter (c :: before) rest

/-- A text in lower case. -/
def lower (s : String) : String := String.ofList (lowerAfter [] s.toList)

end Gatehouse.Text
