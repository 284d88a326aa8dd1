import MessageQueue.Text.CharTable

/-!
# Writing directions in domain names

Some scripts are written from the right to the left.  If any label of a domain name holds such
characters, every label of the name has to have one direction that can be told from its first
character, and from its last one.
-/

namespace MessageQueue.Domain

open MessageQueue.Text

/-- What a character says about the direction of writing. -/
inductive Direction where
  | leftward
  | rightward
  /-- An Arabic digit. -/
  | arabicDigit
  /-- A European digit. -/
  | digit
  /-- A sign of no direction. -/
  | neutral
  /-- A mark on the character before it. -/
  | mark
deriving DecidableEq, Repr

/-- The directions of characters beyond ASCII that stay as they are in a name, except those that are
written rightward. -/
def directionTable : CharTable := CharTable.ofLines [
  "a1-d7:4 f7:4 2b9-2ba:4 2c2-2cf:4 2d2-2ed:4 2ef-2ff:4 300-36f:5 375:4 3f6:4 483-489:5 58a-58f:4",
  "591-5bd:5 5be:1 5bf:5 5c0:1 5c1-5c2:5 5c3:1 5c4-5c5:5 5c6:1 5c7:5 5d0-5f4:1 606-607:4 608:1",
  "609-60a:4 60b:1 60c:4 60d:1 60e-60f:4 610-61a:5 61b-64a:1 64b-65f:5 660-669:2 66a:4 66b-66c:2",
  "66d-66f:1 670:5 671-6d5:1 6d6-6dc:5 6de:4 6df-6e4:5 6e5-6e6:1 6e7-6e8:5 6e9:4 6ea-6ed:5",
  "6ee-6ef:1 6f0-6f9:3 6fa-710:1 711:5 712-72f:1 730-74a:5 74d-7a5:1 7a6-7b0:5 7b1-7ea:1",
  "7eb-7f3:5 7f4-7f5:1 7f6-7f9:4 7fa:1 7fd:5 7fe-815:1 816-819:5 81a:1 81b-823:5 824:1 825-827:5",
  "828:1 829-82d:5 830-858:1 859-85b:5 85e-88e:1 898-89f:5 8a0-8c9:1 8ca-902:5 93a:5 93c:5",
  "941-948:5 94d:5 951-957:5 962-963:5 981:5 9bc:5 9c1-9c4:5 9cd:5 9e2-9e3:5 9f2-9f3:4 9fb:4",
  "9fe-a02:5 a3c:5 a41-a51:5 a70-a71:5 a75:5 a81-a82:5 abc:5 ac1-ac8:5 acd:5 ae2-ae3:5 af1:4",
  "afa-b01:5 b3c:5 b3f:5 b41-b44:5 b4d-b56:5 b62-b63:5 b82:5 bc0:5 bcd:5 bf3-bfa:4 c00:5 c04:5",
  "c3c:5 c3e-c40:5 c46-c56:5 c62-c63:5 c78-c7e:4 c81:5 cbc:5 ccc-ccd:5 ce2-ce3:5 d00-d01:5",
  "d3b-d3c:5 d41-d44:5 d4d:5 d62-d63:5 d81:5 dca:5 dd2-dd6:5 e31:5 e34-e3a:5 e3f:4 e47-e4e:5",
  "eb1:5 eb4-ebc:5 ec8-ecd:5 f18-f19:5 f35:5 f37:5 f39:5 f3a-f3d:4 f71-f7e:5 f80-f84:5 f86-f87:5",
  "f8d-fbc:5 fc6:5 102d-1030:5 1032-1037:5 1039-103a:5 103d-103e:5 1058-1059:5 105e-1060:5",
  "1071-1074:5 1082:5 1085-1086:5 108d:5 109d:5 135d-135f:5 1390-1399:4 1400:4 169b-169c:4",
  "1712-1714:5 1732-1733:5 1752-1753:5 1772-1773:5 17b7-17bd:5 17c6:5 17c9-17d3:5 17db:4 17dd:5",
  "17f0-180a:4 1885-1886:5 18a9:5 1920-1922:5 1927-1928:5 1932:5 1939-193b:5 1940-1945:4",
  "19de-19ff:4 1a17-1a18:5 1a1b:5 1a56:5 1a58-1a60:5 1a62:5 1a65-1a6c:5 1a73-1a7f:5 1ab0-1b03:5",
  "1b34:5 1b36-1b3a:5 1b3c:5 1b42:5 1b6b-1b73:5 1b80-1b81:5 1ba2-1ba5:5 1ba8-1ba9:5 1bab-1bad:5",
  "1be6:5 1be8-1be9:5 1bed:5 1bef-1bf1:5 1c2c-1c33:5 1c36-1c37:5 1cd0-1cd2:5 1cd4-1ce0:5",
  "1ce2-1ce8:5 1ced:5 1cf4:5 1cf8-1cf9:5 1dc0-1dff:5 200c-20c0:4 20d0-20f0:5 2104-214d:4",
  "218a-2335:4 237b-2394:4 2396-26ab:4 26ad-27ff:4 2900-2bff:4 2ce5-2cea:4 2cef-2cf1:5",
  "2cf9-2cff:4 2d7f:5 2de0-2dff:5 2e00-3004:4 3008-3020:4 302a-302d:5 3030:4 3037:4 303d-303f:4",
  "3099-309a:5 30a0:4 30fb:4 31c0-31e3:4 4dc0-4dff:4 a490-a4c6:4 a60d-a60f:4 a66f-a672:5 a673:4",
  "a674-a67d:5 a67e-a67f:4 a69e-a69f:5 a6f0-a6f1:5 a700-a721:4 a788:4 a802:5 a806:5 a80b:5",
  "a825-a826:5 a828-a82b:4 a82c:5 a838-a839:4 a874-a877:4 a8c4-a8c5:5 a8e0-a8f1:5 a8ff:5",
  "a926-a92d:5 a947-a951:5 a980-a982:5 a9b3:5 a9b6-a9b9:5 a9bc-a9bd:5 a9e5:5 aa29-aa2e:5",
  "aa31-aa32:5 aa35-aa36:5 aa43:5 aa4c:5 aa7c:5 aab0:5 aab2-aab4:5 aab7-aab8:5 aabe-aabf:5 aac1:5",
  "aaec-aaed:5 aaf6:5 ab6a-ab6b:4 abe5:5 abe8:5 abed:5 fb1e:5 fbb2-fbc2:1 fd3e-fdff:4 fe20-fe2f:5",
  "fe45-fe46:4 fe73:1 10101:4 10140-1018c:4 10190-101a0:4 101fd:5 102e0:5 102e1-102fb:3",
  "10376-1037a:5 10800-1091b:1 1091f:4 10920-10a00:1 10a01-10a0f:5 10a10-10a35:1 10a38-10a3f:5",
  "10a40-10ae4:1 10ae5-10ae6:5 10aeb-10b35:1 10b39-10b3f:4 10b40-10d23:1 10d24-10d27:5",
  "10d30-10e7e:2 10e80-10ea9:1 10eab-10eac:5 10ead-10f45:1 10f46-10f50:5 10f51-10f81:1",
  "10f82-10f85:5 10f86-10ff6:1 11001:5 11038-11046:5 11052-11065:4 11070:5 11073-11074:5",
  "1107f-11081:5 110b3-110b6:5 110b9-110ba:5 110c2:5 11100-11102:5 11127-1112b:5 1112d-11134:5",
  "11173:5 11180-11181:5 111b6-111be:5 111c9-111cc:5 111cf:5 1122f-11231:5 11234:5 11236-11237:5",
  "1123e:5 112df:5 112e3-112ea:5 11300-11301:5 1133b-1133c:5 11340:5 11366-11374:5 11438-1143f:5",
  "11442-11444:5 11446:5 1145e:5 114b3-114b8:5 114ba:5 114bf-114c0:5 114c2-114c3:5 115b2-115b5:5",
  "115bc-115bd:5 115bf-115c0:5 115dc-115dd:5 11633-1163a:5 1163d:5 1163f-11640:5 11660-1166c:4",
  "116ab:5 116ad:5 116b0-116b5:5 116b7:5 1171d-1171f:5 11722-11725:5 11727-1172b:5 1182f-11837:5",
  "11839-1183a:5 1193b-1193c:5 1193e:5 11943:5 119d4-119db:5 119e0:5 11a01-11a06:5 11a09-11a0a:5",
  "11a33-11a38:5 11a3b-11a3e:5 11a47:5 11a51-11a56:5 11a59-11a5b:5 11a8a-11a96:5 11a98-11a99:5",
  "11c30-11c3d:5 11c92-11ca7:5 11caa-11cb0:5 11cb2-11cb3:5 11cb5-11cb6:5 11d31-11d45:5 11d47:5",
  "11d90-11d91:5 11d95:5 11d97:5 11ef3-11ef4:5 11fd5-11ff1:4 16af0-16af4:5 16b30-16b36:5 16f4f:5",
  "16f8f-16f92:5 16fe2:4 16fe4:5 1bc9d-1bc9e:5 1cf00-1cf46:5 1d167-1d169:5 1d17b-1d182:5",
  "1d185-1d18b:5 1d1aa-1d1ad:5 1d1e9-1d241:4 1d242-1d244:5 1d245:4 1d300-1d356:4 1da00-1da36:5",
  "1da3b-1da6c:5 1da75:5 1da84:5 1da9b-1daaf:5 1e000-1e02a:5 1e130-1e136:5 1e2ae:5 1e2ec-1e2ef:5",
  "1e2ff:4 1e800-1e8cf:1 1e8d0-1e8d6:5 1e922-1e943:1 1e944-1e94a:5 1e94b-1ed3d:1 1eef0-1f12f:4",
  "1f16d-1f16f:4 1f1ad:4 1f260-1fbca:4"]

namespace Direction

/-- The direction that a value in the table stands for. -/
def ofValue : Nat → Direction
  | 1 => leftward
  | 2 => arabicDigit
  | 3 => digit
  | 4 => neutral
  | 5 => mark
  | _ => rightward

/-- What a character says about the direction. -/
def ofChar (c : Char) : Direction :=
  if c.toNat < 128 then
    if c.isAlpha then rightward else if c.isDigit then digit else neutral
  else match directionTable.row? c.toNat with
    | some row => ofValue (row.values.headD 0)
    | none => rightward

/-- The direction of the last character, marks on it aside. -/
def last? (ds : List Direction) : Option Direction := (ds.reverse.dropWhile (· = mark)).head?

/-- Whether a label can stand in a name with characters that are written leftward. -/
def fits : List Direction → Bool
  | [] => true
  | rightward :: ds =>
    ds.all (fun d => d ≠ leftward ∧ d ≠ arabicDigit) &&
      (last? (rightward :: ds) = some rightward || last? (rightward :: ds) = some digit)
  | leftward :: ds =>
    ds.all (· ≠ rightward) && !(digit ∈ ds && arabicDigit ∈ ds) &&
      last? (leftward :: ds) ≠ some neutral
  | _ => false

end Direction

/-- Whether labels hold one direction each, if any of them holds characters that are written
leftward. -/
def directed (labels : List (List Char)) : Bool :=
  let directions := labels.map (·.map Direction.ofChar)
  !directions.any (fun ds => .leftward ∈ ds || .arabicDigit ∈ ds) || directions.all Direction.fits

end MessageQueue.Domain
