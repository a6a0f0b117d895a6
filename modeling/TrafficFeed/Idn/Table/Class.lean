/-!
# Classes of characters

Properties of the characters that a domain name may hold. An entry is a code point in
hexadecimal or a first and a last one; characters between them that a name may not hold do not
matter.
-/

namespace TrafficFeed.Idn.Table

/-- The marks, which combine with the character before them. -/
def marks : String :=
  "300-36f 483-489 591-5bd 5bf 5c1-5c2 5c4-5c5 5c7-5c8 610-61a 64b-65f 670 6d6-6dc 6df-6e4
  6e7-6e8 6ea-6ed 711 730-74a 7a6-7b0 7eb-7f3 7fd 816-819 81b-823 825-827 829-82d 859-85b 897-89f
  8ca-903 93a-93c 93e-94f 951-957 962-963 981-983 9bc 9be-9cd 9d7 9e2-9e3 9fe-a03 a3c-a51 a70-a71
  a75 a81-a83 abc abe-acd ae2-ae3 afa-b03 b3c b3e-b57 b62-b63 b82 bbe-bcd bd7 c00-c04 c3c c3e-c56
  c62-c63 c81-c83 cbc cbe-cd6 ce2-ce3 cf3-d03 d3b-d3c d3e-d4d d57 d62-d63 d81-d83 dca-ddf df2-df3
  e31 e34-e3a e47-e4e eb1 eb4-ebc ec8-ece f18-f19 f35 f37 f39 f3e-f3f f71-f84 f86-f87 f8d-fbc fc6
  102b-103e 1056-1059 105e-1060 1062-1064 1067-106d 1071-1074 1082-108d 108f 109a-109d 135d-135f
  1712-1715 1732-1734 1752-1753 1772-1773 17b6-17d3 17dd 1885-1886 18a9 1920-193b 1a17-1a1b
  1a55-1a7f 1ab0-1b04 1b34-1b44 1b6b-1b73 1b80-1b82 1ba1-1bad 1be6-1bf3 1c24-1c37 1cd0-1cd2
  1cd4-1ce8 1ced 1cf4 1cf7-1cf9 1dc0-1dff 20d0-20f0 2cef-2cf1 2d7f 2de0-2dff 302a-302f 3099-309a
  a66f-a672 a674-a67d a69e-a69f a6f0-a6f1 a802 a806 a80b a823-a827 a82c a880-a881 a8b4-a8c5
  a8e0-a8f1 a8ff a926-a92d a947-a953 a980-a983 a9b3-a9c0 a9e5 aa29-aa36 aa43 aa4c-aa4d aa7b-aa7d
  aab0 aab2-aab4 aab7-aab8 aabe-aabf aac1 aaeb-aaef aaf5-aaf6 abe3-abea abec-abed fb1e fe20-fe2f
  101fd 102e0 10376-1037a 10a01-10a0f 10a38-10a3f 10ae5-10ae6 10d24-10d27 10d69-10d6d 10eab-10eac
  10efa-10eff 10f46-10f50 10f82-10f85 11000-11002 11038-11046 11070 11073-11074 1107f-11082
  110b0-110ba 110c2 11100-11102 11127-11134 11145-11146 11173 11180-11182 111b3-111c0 111c9-111cc
  111ce-111cf 1122c-11237 1123e 11241 112df-112ea 11300-11303 1133b-1133c 1133e-1134d 11357
  11362-11374 113b8-113d0 113d2 113e1-113e2 11435-11446 1145e 114b0-114c3 115af-115c0 115dc-115dd
  11630-11640 116ab-116b7 1171d-1172b 1182c-1183a 11930-1193e 11940 11942-11943 119d1-119e0 119e4
  11a01-11a0a 11a33-11a39 11a3b-11a3e 11a47 11a51-11a5b 11a8a-11a99 11b60-11b67 11c2f-11c3f
  11c92-11cb6 11d31-11d45 11d47 11d8a-11d97 11ef3-11ef6 11f00-11f01 11f03 11f34-11f42 11f5a 13440
  13447-13455 1611e-1612f 16af0-16af4 16b30-16b36 16f4f 16f51-16f92 16fe4-16ff1 1bc9d-1bc9e
  1cf00-1cf46 1d165-1d169 1d16d-1d182 1d185-1d18b 1d1aa-1d1ad 1d242-1d244 1da00-1da36 1da3b-1da6c
  1da75 1da84 1da9b-1daaf 1e000-1e08f 1e130-1e136 1e2ae 1e2ec-1e2ef 1e4ec-1e4ef 1e5ee-1e5ef 1e6e3
  1e6e6 1e6ee-1e6ef 1e6f5 1e8d0-1e8d6 1e944-1e94a"

/-- The combining classes other than 0; the class comes first, in decimal, before a colon. -/
def combiningClasses : String :=
  "1:334-338 1:1cd4 1:1ce2-1ce8 1:20d2-20d3 1:20d8-20da 1:20e5-20e6 1:20ea-20eb 1:10a39
  1:16af0-16af4 1:1bc9e 1:1d167-1d169 6:16ff0-16ff1 7:93c 7:9bc 7:a3c 7:abc 7:b3c 7:c3c 7:cbc
  7:1037 7:1b34 7:1be6 7:1c37 7:a9b3 7:110ba 7:11173 7:111ca 7:11236 7:112e9 7:1133b-1133c
  7:11446 7:114c3 7:115c0 7:116b7 7:1183a 7:11943 7:11d42 7:1e94a 8:3099-309a 9:94d 9:9cd 9:a4d
  9:acd 9:b4d 9:bcd 9:c4d 9:ccd 9:d3b-d3c 9:d4d 9:dca 9:e3a 9:eba 9:f84 9:1039-103a 9:1714-1715
  9:1734 9:17d2 9:1a60 9:1b44 9:1baa-1bab 9:1bf2-1bf3 9:2d7f 9:a806 9:a82c 9:a8c4 9:a953 9:a9c0
  9:aaf6 9:abed 9:10a3f 9:11046 9:11070 9:1107f 9:110b9 9:11133-11134 9:111c0 9:11235 9:112ea
  9:1134d 9:113ce-113d0 9:11442 9:114c2 9:115bf 9:1163f 9:116b6 9:1172b 9:11839 9:1193d-1193e
  9:119e0 9:11a34 9:11a47 9:11a99 9:11c3f 9:11d44-11d45 9:11d97 9:11f41-11f42 9:1612f 10:5b0
  11:5b1 12:5b2 13:5b3 14:5b4 15:5b5 16:5b6 17:5b7 18:5b8 18:5c7 19:5b9-5ba 20:5bb 21:5bc 22:5bd
  23:5bf 24:5c1 25:5c2 26:fb1e 27:64b 27:8f0 28:64c 28:8f1 29:64d 29:8f2 30:618 30:64e 31:619
  31:64f 32:61a 32:650 33:651 34:652 35:670 36:711 84:c55 91:c56 103:e38-e39 107:e48-e4b
  118:eb8-eb9 122:ec8-ecb 129:f71 130:f72 130:f7a-f7d 130:f80 132:f74 202:321-322 202:327-328
  202:1dd0 214:1dce 216:31b 216:f39 216:1d165-1d166 216:1d16e-1d172 218:1dfa 218:302a 220:316-319
  220:31c-320 220:323-326 220:329-333 220:339-33c 220:347-349 220:34d-34e 220:353-356 220:359-35a
  220:591 220:596 220:59b 220:5a2-5a7 220:5aa 220:5c5 220:655-656 220:65c 220:65f 220:6e3 220:6ea
  220:6ed 220:731 220:734 220:737-739 220:73b-73c 220:73e 220:742 220:744 220:746 220:748 220:7f2
  220:7fd 220:859-85b 220:899-89b 220:8cf-8d3 220:8e3 220:8e6 220:8e9 220:8ed-8ef 220:8f6
  220:8f9-8fa 220:952 220:f18-f19 220:f35 220:f37 220:fc6 220:108d 220:193b 220:1a18 220:1a7f
  220:1ab5-1aba 220:1abd 220:1abf-1ac0 220:1ac3-1ac4 220:1aca 220:1add 220:1ae6 220:1b6c
  220:1cd5-1cd9 220:1cdc-1cdf 220:1ced 220:1dc2 220:1dca 220:1dcf 220:1df9 220:1dfd 220:1dff
  220:20e8 220:20ec-20ef 220:a92b-a92d 220:aab4 220:fe27-fe2d 220:101fd 220:102e0 220:10a0d
  220:10a3a 220:10ae6 220:10efa-10efb 220:10efd-10eff 220:10f46-10f47 220:10f4b 220:10f4d-10f50
  220:10f83 220:10f85 220:1d17b-1d182 220:1d18a-1d18b 220:1e4ee 220:1e5ef 220:1e8d0-1e8d6 222:59a
  222:5ad 222:1939 222:302d 224:302e-302f 226:1d16d 228:5ae 228:18a9 228:1df7-1df8 228:302b
  230:300-314 230:33d-346 230:34a-34c 230:350-352 230:357 230:35b 230:363-36f 230:483-487
  230:592-595 230:597-599 230:59c-5a1 230:5a8-5a9 230:5ab-5ac 230:5af 230:5c4 230:610-617
  230:653-654 230:657-65b 230:65d-65e 230:6d6-6dc 230:6df-6e2 230:6e4 230:6e7-6e8 230:6eb-6ec
  230:730 230:732-733 230:735-736 230:73a 230:73d 230:73f-741 230:743 230:745 230:747 230:749-74a
  230:7eb-7f1 230:7f3 230:816-819 230:81b-823 230:825-827 230:829-82d 230:897-898 230:89c-89f
  230:8ca-8ce 230:8d4-8e1 230:8e4-8e5 230:8e7-8e8 230:8ea-8ec 230:8f3-8f5 230:8f7-8f8 230:8fb-8ff
  230:951 230:953-954 230:9fe 230:f82-f83 230:f86-f87 230:135d-135f 230:17dd 230:193a 230:1a17
  230:1a75-1a7c 230:1ab0-1ab4 230:1abb-1abc 230:1ac1-1ac2 230:1ac5-1ac9 230:1acb-1adc
  230:1ae0-1ae5 230:1ae7-1aea 230:1aec 230:1b6b 230:1b6d-1b73 230:1cd0-1cd2 230:1cda-1cdb
  230:1ce0 230:1cf4 230:1cf8-1cf9 230:1dc0-1dc1 230:1dc3-1dc9 230:1dcb-1dcc 230:1dd1-1df5
  230:1dfb 230:1dfe 230:20d0-20d1 230:20d4-20d7 230:20db-20dc 230:20e1 230:20e7 230:20e9 230:20f0
  230:2cef-2cf1 230:2de0-2dff 230:a66f 230:a674-a67d 230:a69e-a69f 230:a6f0-a6f1 230:a8e0-a8f1
  230:aab0 230:aab2-aab3 230:aab7-aab8 230:aabe-aabf 230:aac1 230:fe20-fe26 230:fe2e-fe2f
  230:10376-1037a 230:10a0f 230:10a38 230:10ae5 230:10d24-10d27 230:10d69-10d6d 230:10eab-10eac
  230:10f48-10f4a 230:10f4c 230:10f82 230:10f84 230:11100-11102 230:11366-11374 230:1145e
  230:16b30-16b36 230:1d185-1d189 230:1d1aa-1d1ad 230:1d242-1d244 230:1e000-1e08f 230:1e130-1e136
  230:1e2ae 230:1e2ec-1e2ef 230:1e4ef 230:1e5ee 230:1e6e3 230:1e6e6 230:1e6ee-1e6ef 230:1e6f5
  230:1e944-1e949 232:315 232:31a 232:358 232:1df6 232:302c 232:1e4ec-1e4ed 233:35c 233:35f
  233:362 233:1dfc 234:35d-35e 234:360-361 234:1aeb 234:1dcd"

/-- Letters written from right to left. -/
def rightToLeft : String :=
  "5be 5c0 5c3 5c6 5d0-5f4 608 60b 60d 61b-64a 66d-66f 671-6d5 6e5-6e6 6ee-6ef 6fa-710 712-72f
  74d-7a5 7b1-7ea 7f4-7f5 7fa 7fe-815 81a 824 828 830-858 85e-88f 8a0-8c9 fbb2-fbc2 fe73
  10800-1091b 10920-10a00 10a10-10a35 10a40-10ae4 10aeb-10b35 10b40-10d23 10d4a-10d4f 10d6f-10d8f
  10e80-10ea9 10ead-10ec9 10ed9 10f00-10f45 10f51-10f81 10f86-10ff6 1e800-1e8cf 1e922-1e943
  1e94b-1ed3d"

/-- The Arabic digits and their signs. -/
def arabicNumbers : String :=
  "660-669 66b-66c 10d30-10d49 10e60-10e7e"

def europeanNumbers : String :=
  "30-39 6f0-6f9 102e1-102fb"

/-- Marks as regards direction. -/
def directionMarks : String :=
  "300-36f 483-489 591-5bd 5bf 5c1-5c2 5c4-5c5 5c7-5c8 610-61a 64b-65f 670 6d6-6dc 6df-6e4
  6e7-6e8 6ea-6ed 711 730-74a 7a6-7b0 7eb-7f3 7fd 816-819 81b-823 825-827 829-82d 859-85b 897-89f
  8ca-902 93a 93c 941-948 94d 951-957 962-963 981 9bc 9c1-9c4 9cd 9e2-9e3 9fe-a02 a3c a41-a51
  a70-a71 a75 a81-a82 abc ac1-ac8 acd ae2-ae3 afa-b01 b3c b3f b41-b44 b4d-b56 b62-b63 b82 bc0 bcd
  c00 c04 c3c c3e-c40 c46-c56 c62-c63 c81 cbc ccc-ccd ce2-ce3 d00-d01 d3b-d3c d41-d44 d4d d62-d63
  d81 dca dd2-dd6 e31 e34-e3a e47-e4e eb1 eb4-ebc ec8-ece f18-f19 f35 f37 f39 f71-f7e f80-f84
  f86-f87 f8d-fbc fc6 102d-1030 1032-1037 1039-103a 103d-103e 1058-1059 105e-1060 1071-1074 1082
  1085-1086 108d 109d 135d-135f 1712-1714 1732-1733 1752-1753 1772-1773 17b7-17bd 17c6 17c9-17d3
  17dd 1885-1886 18a9 1920-1922 1927-1928 1932 1939-193b 1a17-1a18 1a1b 1a56 1a58-1a60 1a62
  1a65-1a6c 1a73-1a7f 1ab0-1b03 1b34 1b36-1b39 1b3c 1b6b-1b73 1b80-1b81 1ba2-1ba5 1ba8-1ba9
  1bab-1bad 1be6 1be8-1be9 1bed 1bef-1bf1 1c2c-1c33 1c36-1c37 1cd0-1cd2 1cd4-1ce0 1ce2-1ce8 1ced
  1cf4 1cf8-1cf9 1dc0-1dff 20d0-20f0 2cef-2cf1 2d7f 2de0-2dff 302a-302d 3099-309a a66f-a672
  a674-a67d a69e-a69f a6f0-a6f1 a802 a806 a80b a825-a826 a82c a8c4-a8c5 a8e0-a8f1 a8ff a926-a92d
  a947-a951 a980-a982 a9b3 a9b6-a9b9 a9bc-a9bd a9e5 aa29-aa2e aa31-aa32 aa35-aa36 aa43 aa4c aa7c
  aab0 aab2-aab4 aab7-aab8 aabe-aabf aac1 aaec-aaed aaf6 abe5 abe8 abed fb1e fe20-fe2f 101fd
  102e0 10376-1037a 10a01-10a0f 10a38-10a3f 10ae5-10ae6 10d24-10d27 10d69-10d6d 10eab-10eac
  10efa-10eff 10f46-10f50 10f82-10f85 11001 11038-11046 11070 11073-11074 1107f-11081 110b3-110b6
  110b9-110ba 110c2 11100-11102 11127-1112b 1112d-11134 11173 11180-11181 111b6-111be 111c9-111cc
  111cf 1122f-11231 11234 11236-11237 1123e 11241 112df 112e3-112ea 11300-11301 1133b-1133c 11340
  11366-11374 113bb-113c0 113ce 113d0 113d2 113e1-113e2 11438-1143f 11442-11444 11446 1145e
  114b3-114b8 114ba 114bf-114c0 114c2-114c3 115b2-115b5 115bc-115bd 115bf-115c0 115dc-115dd
  11633-1163a 1163d 1163f-11640 116ab 116ad 116b0-116b5 116b7 1171d 1171f 11722-11725 11727-1172b
  1182f-11837 11839-1183a 1193b-1193c 1193e 11943 119d4-119db 119e0 11a01-11a06 11a09-11a0a
  11a33-11a38 11a3b-11a3e 11a47 11a51-11a56 11a59-11a5b 11a8a-11a96 11a98-11a99 11b60 11b62-11b64
  11b66 11c30-11c3d 11c92-11ca7 11caa-11cb0 11cb2-11cb3 11cb5-11cb6 11d31-11d45 11d47 11d90-11d91
  11d95 11d97 11ef3-11ef4 11f00-11f01 11f36-11f3a 11f40 11f42 11f5a 13440 13447-13455 1611e-16129
  1612d-1612f 16af0-16af4 16b30-16b36 16f4f 16f8f-16f92 16fe4 1bc9d-1bc9e 1cf00-1cf46 1d167-1d169
  1d17b-1d182 1d185-1d18b 1d1aa-1d1ad 1d242-1d244 1da00-1da36 1da3b-1da6c 1da75 1da84 1da9b-1daaf
  1e000-1e08f 1e130-1e136 1e2ae 1e2ec-1e2ef 1e4ec-1e4ef 1e5ee-1e5ef 1e6e3 1e6e6 1e6ee-1e6ef 1e6f5
  1e8d0-1e8d6 1e944-1e94a"

/-- Characters without a direction of their own. -/
def neutrals : String :=
  "0-8 e-1b 21-2f 3a-60 7b-d7 f7 2b9-2ba 2c2-2cf 2d2-2ed 2ef-2ff 375 3f6 58a-58f 606-607 609-60a
  60c 60e-60f 66a 6de 6e9 7f6-7f9 9f2-9f3 9fb af1 bf3-bfa c78-c7e e3f f3a-f3d 1390-1399 1400
  169b-169c 17db 17f0-180a 1940-1945 19de-19ff 200c-20c2 2104-214d 218a-2335 237b-2394 2396-26ab
  26ad-27ff 2900-2bff 2ce5-2cea 2cf9-2cff 2e00-3004 3008-3020 3030 3037 303d-303f 30a0 30fb
  31c0-31e5 4dc0-4dff a490-a4c6 a60d-a60f a673 a67e-a67f a700-a721 a788 a828-a82b a838-a839
  a874-a877 ab6a-ab6b fbc3-fdff fe45-fe46 10101 10140-1018c 10190-101a0 1091f 10b39-10b3f 10d6e
  10ed0-10ed8 11052-11065 11660-1166c 11fd5-11ff1 16fe2 1cc00-1cef0 1d1e9-1d241 1d245 1d300-1d356
  1e2ff 1eef0-1f12f 1f16d-1f16f 1f1ad 1f260-1fbfa"

/-- Separators, which no name that runs from right to left may hold. -/
def separators : String :=
  "9-d 1c-20"

/-- Letters that join the one after them. -/
def joinLeft : String :=
  "a872 10acd 10ad7 10d00 10fcb"

/-- Letters that join the one before them. -/
def joinRight : String :=
  "622-625 627 629 62f-632 648 671-673 688-699 6c0 6c3-6cb 6cd 6cf 6d2-6d3 6d5 6ee-6ef 710
  715-719 71e 728 72a 72c 72f 74d 759-75b 76b-76c 771 773-774 778-779 840 846-847 849 854 856-858
  867 869-882 88e 8aa-8ac 8ae 8b1-8b2 8b9 10ac5 10ac7 10ac9-10aca 10ace-10ad2 10add 10ae1 10ae4
  10aef 10b81 10b83-10b85 10b89 10b8c 10b8e-10b8f 10b91 10ba9-10bac 10d22 10ec2 10f33 10f54
  10f74-10f75 10fb4-10fb6 10fb9-10fba 10fbd 10fc2-10fc3 10fc9"

/-- Letters that join on both sides. -/
def joinDual : String :=
  "620 626 628 62a-62e 633-63f 641-647 649-64a 66e-66f 679-687 69a-6bf 6c1-6c2 6cc 6ce 6d0-6d1
  6fa-6fc 6ff 712-714 71a-71d 71f-727 729 72b 72d-72e 74e-758 75c-76a 76d-770 772 775-777 77a-77f
  7ca-7ea 841-845 848 84a-853 855 860 862-865 868 886 889-88d 88f 8a0-8a9 8af-8b0 8b3-8b8 8ba-8c8
  1807 1820-1878 1887-18a8 18aa a840-a871 10ac0-10ac4 10ad3-10ad6 10ad8-10adc 10ade-10ae0
  10aeb-10aee 10b80 10b82 10b86-10b88 10b8a-10b8b 10b8d 10b90 10bad-10bae 10d01-10d21 10d23
  10ec3-10ec4 10ec6-10ec7 10f30-10f32 10f34-10f44 10f51-10f53 10f70-10f73 10f76-10f81 10fb0
  10fb2-10fb3 10fb8 10fbb-10fbc 10fbe-10fbf 10fc1 10fc4 10fca 1e922-1e943"

/-- Characters that joining passes over. -/
def joinTransparent : String :=
  "300-36f 483-489 591-5bd 5bf 5c1-5c2 5c4-5c5 5c7-5c8 610-61a 64b-65f 670 6d6-6dc 6df-6e4
  6e7-6e8 6ea-6ed 711 730-74a 7a6-7b0 7eb-7f3 7fd 816-819 81b-823 825-827 829-82d 859-85b 897-89f
  8ca-902 93a 93c 941-948 94d 951-957 962-963 981 9bc 9c1-9c4 9cd 9e2-9e3 9fe-a02 a3c a41-a51
  a70-a71 a75 a81-a82 abc ac1-ac8 acd ae2-ae3 afa-b01 b3c b3f b41-b44 b4d-b56 b62-b63 b82 bc0 bcd
  c00 c04 c3c c3e-c40 c46-c56 c62-c63 c81 cbc cbf cc6 ccc-ccd ce2-ce3 d00-d01 d3b-d3c d41-d44 d4d
  d62-d63 d81 dca dd2-dd6 e31 e34-e3a e47-e4e eb1 eb4-ebc ec8-ece f18-f19 f35 f37 f39 f71-f7e
  f80-f84 f86-f87 f8d-fbc fc6 102d-1030 1032-1037 1039-103a 103d-103e 1058-1059 105e-1060
  1071-1074 1082 1085-1086 108d 109d 135d-135f 1712-1714 1732-1733 1752-1753 1772-1773 17b7-17bd
  17c6 17c9-17d3 17dd 1885-1886 18a9 1920-1922 1927-1928 1932 1939-193b 1a17-1a18 1a1b 1a56
  1a58-1a60 1a62 1a65-1a6c 1a73-1a7f 1ab0-1b03 1b34 1b36-1b39 1b3c 1b6b-1b73 1b80-1b81 1ba2-1ba5
  1ba8-1ba9 1bab-1bad 1be6 1be8-1be9 1bed 1bef-1bf1 1c2c-1c33 1c36-1c37 1cd0-1cd2 1cd4-1ce0
  1ce2-1ce8 1ced 1cf4 1cf8-1cf9 1dc0-1dff 20d0-20f0 2cef-2cf1 2d7f 2de0-2dff 302a-302d 3099-309a
  a66f-a672 a674-a67d a69e-a69f a6f0-a6f1 a802 a806 a80b a825-a826 a82c a8c4-a8c5 a8e0-a8f1 a8ff
  a926-a92d a947-a951 a980-a982 a9b3 a9b6-a9b9 a9bc-a9bd a9e5 aa29-aa2e aa31-aa32 aa35-aa36 aa43
  aa4c aa7c aab0 aab2-aab4 aab7-aab8 aabe-aabf aac1 aaec-aaed aaf6 abe5 abe8 abed fb1e fe20-fe2f
  101fd 102e0 10376-1037a 10a01-10a0f 10a38-10a3f 10ae5-10ae6 10d24-10d27 10d69-10d6d 10eab-10eac
  10efa-10eff 10f46-10f50 10f82-10f85 11001 11038-11046 11070 11073-11074 1107f-11081 110b3-110b6
  110b9-110ba 110c2 11100-11102 11127-1112b 1112d-11134 11173 11180-11181 111b6-111be 111c9-111cc
  111cf 1122f-11231 11234 11236-11237 1123e 11241 112df 112e3-112ea 11300-11301 1133b-1133c 11340
  11366-11374 113bb-113c0 113ce 113d0 113d2 113e1-113e2 11438-1143f 11442-11444 11446 1145e
  114b3-114b8 114ba 114bf-114c0 114c2-114c3 115b2-115b5 115bc-115bd 115bf-115c0 115dc-115dd
  11633-1163a 1163d 1163f-11640 116ab 116ad 116b0-116b5 116b7 1171d 1171f 11722-11725 11727-1172b
  1182f-11837 11839-1183a 1193b-1193c 1193e 11943 119d4-119db 119e0 11a01-11a0a 11a33-11a38
  11a3b-11a3e 11a47 11a51-11a56 11a59-11a5b 11a8a-11a96 11a98-11a99 11b60 11b62-11b64 11b66
  11c30-11c3d 11c3f 11c92-11ca7 11caa-11cb0 11cb2-11cb3 11cb5-11cb6 11d31-11d45 11d47 11d90-11d91
  11d95 11d97 11ef3-11ef4 11f00-11f01 11f36-11f3a 11f40 11f42 11f5a 13440 13447-13455 1611e-16129
  1612d-1612f 16af0-16af4 16b30-16b36 16f4f 16f8f-16f92 16fe4 1bc9d-1bc9e 1cf00-1cf46 1d167-1d169
  1d17b-1d182 1d185-1d18b 1d1aa-1d1ad 1d242-1d244 1da00-1da36 1da3b-1da6c 1da75 1da84 1da9b-1daaf
  1e000-1e08f 1e130-1e136 1e2ae 1e2ec-1e2ef 1e4ec-1e4ef 1e5ee-1e5ef 1e6e3 1e6e6 1e6ee-1e6ef 1e6f5
  1e8d0-1e8d6 1e944-1e94b"

end TrafficFeed.Idn.Table
