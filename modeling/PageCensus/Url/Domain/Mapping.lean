import PageCensus.Unicode.CodeTable

/-!
# What characters of a domain name stand for

Case does not matter in domain names, some characters are other forms of simpler ones, and some do
not count at all.  Others can stand in no name, be it that they are of no use there or that they are
not assigned.

* `Domain.standsFor?` — what a character stands for, unless it can stand in no name.
-/

set_option autoImplicit false

namespace PageCensus

namespace Domain

/-- The code points that do not count. -/
def ignoredTable : CodeTable := CodeTable.ofText
  "ad 2a1 e0f-2 653-2 55-5 7fb 54-5 5-6 10f4 cc9b-10 ef a0 bcff-4 14cf-8 c2f85-f0"

/-- The code points that stand in no name. -/
def excludedTable : CodeTable := CodeTable.ofText
  "80-20 2d8-2 6-4 7 1 14 18d 26-2 32-2 3 37-8 1b-4 6-11 16 c0 30-2 3b-2 65-e 3b-2 31-2 f 1c-2 1
  b-5 20-7 4b a1 8-2 2-2 16 7 1-3 4-2 9-2 2-2 4-8 1-4 2 5-2 19-2 3 6-4 2-2 16 7 2 2 2-2 1 5-4 2-2
  3-3 1-7 4 1-7 11-a 3 9 3 16 7 2 5-2 a 3 3-2 1-f 4-2 c-7 7 3 8-2 2-2 16 7 2 5-2 9-2 2-2 3-7 3-4
  2 5-2 12-a 2 6-3 3 4-3 2 1 2-3 2-3 3-3 c-4 5-3 3 4-2 1-6 1-e 15-5 d 3 17 10-2 9 3 4-7 2 3 2-2
  4-2 a-7 16 3 17 a 5-2 9 3 4-7 2-5 3 4-2 a 3-c d 3 33 3 6-4 10-2 1a 3 12-3 18 9 1-2 7-3 1-4 6 1
  8-6 a-2 3-c 3a-4 1d-25 2 1 5 18 1 17-2 5 1 7 a-2 4-20 48 24-4 27 24 f d-25 c6 1-5 1-2 179 4-2 7
  1 4-2 29 4-2 21 4-2 7 1 4-2 f 39 4-2 43-2 20-3 1a-6 56-2 6-2 280 1c-3 59-7 16-9 18-9 14-c d 3
  2-c 5e-2 a-6 a-6 1a-6 59-7 2b-5 46-a 1f c-4 c-4 1-3 2a-2 5-b 2c-4 1a-6 b-3 3e-2 41 1d-2 b-6 a-6
  e-2 2e-2 c-14 4d a6-8 3c-3 f-3 3e-5 2b-2 b-8 2b-5 216-2 6-2 26-2 6-2 8 1 1 1 1f-2 35 f e-2 6
  13-2 3 9 e-2 14-3 1-7 36-5 8-2 1b d-3 22-e 21-f 8c-4 29a-16 b-15 28-14 6d8-2 17e-5 2d 1-5 1-2
  38-7 2-e 18-9 7 7 7 7 7 7 7 7 7e-22 1a 59-c d6-2a 40 56-2 67-5 2b 5e 56-a 2f 1a2 4 10 70b4-3
  37-9 15c-14 b8-8 dd-14 3c-3 a-6 38-8 46-8 c-6 74-b 1e-3 4e b-4 21 37-9 e-2 a-2 67-18 1c-a 6-2
  6-2 6-9 7 7 3c-4 7e-2 a-6 2ba4-c 17-4 31-4 800-1900 16e-2 6a-26 7-c 5-5 1a 5 1 2 2 28a-20 22
  6-7 10 21-2 13 4-4 5 87-2 1 be-3 6-2 6-2 6-2 3-3 7 7-11 c 1a 13 2 f-2 e-22 7b-5 3-4 2d-3 58 d-3
  1-2f 2e-82 1d-3 31-f 1c-4 24-9 1e-5 2b-5 1e 25-4 e-2a 9e-2 a-6 24-4 24-4 28-8 34-b c f 7 2 b f
  7 2-3 34-c 137-9 16-a 8-18 6 2a 9-45 6-2 1 2c 2-3 1-2 17 48-8 9-30 13 2-5 21-3 1b-5 1b-26 38-4
  14-2 32 2-5 8 3 1d-2 3-4 a-7 9-7 40-20 27-4 c-9 36-3 1d-2 1b-5 1a-7 4-c 7-50 49-37 33-d 33-7
  2e-8 a-6 26-3 1d-8 2-d0 1f 2a 3-2 2-10 6-8 9-21 2e-8 2a-16 1a-26 1c-14 17-9 4e-4 24-9 3e 5-d
  19-7 a-6 35 12-8 27-9 60 14-b 12 2f-3e 7 1 4 f b-6 3b-5 a-6 4 8-2 2-2 16 7 2 5 a-2 2-2 3-2 1-6
  1-5 7-2 7-3 5-b a 1-2 1 26 a 1-2 1 4 a 2-8 2-1d 5c 5-1e 48-8 a-a6 36-2 26-22 45-b a-6 d-13 3a-6
  a-6 14-1c 1b-2 f-4 17-b9 3c-64 53-c 8-2 1-2 8 2 1e 2-2 c-9 a-46 8-2 2e-2 b-1b 48-8 53-d 49-7
  a-56 8-58 22-e a-6 9 2d e-a 1d-3 20-2 16 e-49 7 2 2c-3 1 2 9-8 a-6 6 2 25 2 6-7 a-6 2c-4 a-f6
  19-7 11 29-3 1d-55 1-f 32-d 39b-66 6f 5-b c4-c 137-909 63-d 430-10 16-a f9b-5 247-1ab9 3a-6c6
  239-7 1f a-4 51 a-6 1e-2 6-a 46-a a 7 15-5 13-1b0 3a-6 1e-2 a-96 5b-5 19-2 19-2c 4b-4 39-7
  11-40 5-b 7-9 1cd6-29 20-61 73-d 392-e 33-1e1d 4 7 2 123-f 1-1d 3-2 1-e 4-8 18c-904 6b-5 d-3
  9-7 a-2 8-f5c fd-3 1b4-6 17-f 11-f 2e-2 17-9 74-3c f6-a 27-2 c2-15 46-7a 14-c 14-c 57-9 19-87
  55 47 2-2 1-2 2-2 4 c 1 7 41 4-2 8 7 1c 4 5 1-3 7 154-2 124-2 2be-f 5 f-450 1f-6 6-d5 7 11-2 7
  2 5-5 3e-21 1-70 2d-3 e-2 a-4 2-140 1f-11 3a-5 1-1d0 2a-d6 2b-4 1-c0 1f 16-8 2-e0 7 4 2 f c5-2
  10-29 4c-4 a-4 2-311 44-4c 3d-c2 4 1b 2 1-2 1 a 4 1 1-6 1-4 1 1 1 3 2 1-2 1 1 1 1 1 2 1-2 4 7 4
  4 1 a 11-5 3 5 11-34 2-10e 2c-4 64-c f-2 f f 25-b ad-38 1d-d 2c-4 9-7 2-e 6-9a 3d9-3 11-3 d-3
  da-6 c-4 1-f c-4 38-8 a-6 28-8 1e-2 c-4 2-e 9-27 158-8 e-2 d-3 b-3 39 1-4 10-2 c-4 a-7 93
  67-405 a6e0-20 111e-2 168e-2 1d31-f 26e-9a2 21e-5e2 134b-5 212a-9b86 2c40-a04c0 f0-2fe10"

/-- Capital letters and small letters in turn, where every capital letter stands for the small one
behind it. -/
def alternatingTable : CodeTable := CodeTable.ofText
  "100-30 4-4 1-6 2-8 1-2e 1-6 3-4 1-2 2-2 4-2 5-2 6-6 1-2 3-2 1-2 2-4 1-2 2-2 f-10 1-12 4-2 2-28
  2-12 7-2 4-2 3-a 120-4 2-2 60-18 7-2 1-2 64-22 8-36 1-e 1-60 1759-2 175-96 a-60 283-2 adb-2 5-6
  5-2 1-2 9-64 7-4 3-2 794c-2e 12-1c 86-e 2-3e 9-4 1-a 3-2 3-4 2-14 a-10 3-4 1-10 19-2"

/-- Code points that stand for as many others in the same order, with the first of those. -/
def shiftedTable : CodeTable := CodeTable.ofText
  "a0-1-20 9-1-61 7-2-32 1-1-3bc 3-1-31 0-1-6f 5-17-e0 1-7-f8 99-1-ff 6-1-73 1-1-253 4-1-254
  2-2-256 3-1-1dd 0-1-259 0-1-25b 2-1-260 0-1-263 1-1-269 0-1-268 4-1-26f 0-1-272 1-1-275 6-1-280
  2-1-283 4-1-288 2-2-28a 4-1-292 3e-1-195 0-1-1bf 28-1-19e 19-1-2c65 2-1-19a 0-1-2c66 4-1-180
  0-1-289 0-1-28c 6a-1-68 0-1-266 0-1-6a 0-1-72 0-1-279 0-1-27b 0-1-281 0-1-77 0-1-79 27-1-263
  0-1-6c 0-1-73 0-1-78 0-1-295 5b-2-300 1-1-313 1-1-3b9 2e-1-2b9 9-1-3b 0-1-3f3 6-1-3ac 0-1-b7
  0-3-3ad 1-1-3cc 1-2-3cd 1-11-3b1 1-9-3c3 23-1-3d7 0-1-3b2 0-1-3b8 0-1-3c5 0-1-3cd 0-1-3cb
  0-1-3c6 0-1-3c0 19-1-3ba 0-1-3c1 0-1-3c3 1-1-3b8 0-1-3b5 3-1-3c3 3-3-37b 0-10-450 0-20-430
  90-1-4cf 70-26-561 9b5-1-f0b 193-26-2d00 1-1-2d27 5-1-2d2d 2e-1-10dc 2fb-6-13f0 882-1-432
  0-1-434 0-1-43e 0-2-441 0-1-442 0-1-44a 0-1-463 0-1-a64b 7-2b-10d0 2-3-10fd 6c-1-61 0-1-e6
  0-1-62 1-2-64 0-1-1dd 0-8-67 1-1-6f 0-1-223 0-1-70 0-1-72 0-2-74 0-1-77 0-1-61 0-2-250 0-1-1d02
  0-1-62 0-2-64 0-1-259 0-2-25b 0-1-67 1-1-6b 0-1-6d 0-1-14b 0-1-6f 0-1-254 0-2-1d16 0-1-70
  0-2-74 0-1-1d1d 0-1-26f 0-1-76 0-1-1d25 0-3-3b2 0-2-3c6 0-1-69 0-1-72 0-2-75 0-2-3b2 0-1-3c1
  0-2-3c6 d-1-43d 22-1-252 0-1-63 0-1-255 0-1-f0 0-1-25c 0-1-66 0-1-25f 0-1-261 0-1-265 0-3-268
  0-1-1d7b 0-1-29d 0-1-26d 0-1-1d85 0-1-29f 0-1-271 0-1-270 0-4-272 0-1-278 0-2-282 0-1-1ab
  0-2-289 0-1-1d1c 0-2-28b 0-1-7a 0-3-290 0-1-3b8 db-1-1e61 2-1-df 69-8-1f00 8-6-1f10 a-8-1f20
  8-8-1f30 8-6-1f40 b-1-1f51 1-1-1f53 1-1-1f55 1-1-1f57 8-8-1f60 1-1-3ac 1-1-3ad 1-1-3ae 1-1-3af
  1-1-3cc 1-1-3cd 1-1-3ce 3a-2-1fb0 0-1-1f70 0-1-3ac 2-1-3b9 9-1-1f72 0-1-3ad 0-1-1f74 0-1-3ae
  7-1-390 4-2-1fd0 0-1-1f76 0-1-3af 7-1-3b0 4-2-1fe0 0-1-1f7a 0-1-3cd 0-1-1fe5 2-1-60 8-1-1f78
  0-1-3cc 0-1-1f7c 0-1-3ce 4-1-20 0-1-20 0-1-20 0-1-20 0-1-20 0-1-20 0-1-20 0-1-20 0-1-20 0-1-20
  0-1-20 6-1-2010 1d-1-20 2f-1-20 10-1-30 0-1-69 2-6-34 0-1-2b 0-1-2212 0-1-3d 0-2-28 0-1-6e
  0-a-30 0-1-2b 0-1-2212 0-1-3d 0-2-28 1-1-61 0-1-65 0-1-6f 0-1-78 0-1-259 0-1-68 0-4-6b 0-1-70
  0-2-73 65-1-63 4-1-25b 2-2-67 0-1-68 0-1-68 0-1-68 0-1-127 0-1-69 0-1-69 0-1-6c 0-1-6c 1-1-6e
  3-3-70 0-1-72 0-1-72 6-1-7a 1-1-3c9 1-1-7a 1-1-6b 0-1-e5 0-2-62 1-1-65 0-2-65 0-1-214e 0-1-6d
  0-1-6f 0-4-5d0 0-1-69 2-1-3c0 0-1-3b3 0-1-3b3 0-1-3c0 0-1-2211 4-1-64 0-2-64 0-2-69 16-1-69
  3-1-76 4-1-78 2-1-6c 0-2-63 0-1-6d 0-1-69 3-1-76 4-1-78 2-1-6c 0-2-63 0-1-6d 1a9-2-3008
  135-9-31 4d-1a-61 0-1a-61 0-1-30 715-30-2c30 32-1-26b 0-1-1d7d 0-1-27d 8-1-251 0-1-271 0-1-250
  0-1-252 b-1-6a 0-1-76 0-2-23f ef-1-2d61 12f-1-6bcd 53-1-9f9f c-1-4e00 0-1-4e28 0-1-4e36
  0-1-4e3f 0-1-4e59 0-1-4e85 0-1-4e8c 0-1-4ea0 0-1-4eba 0-1-513f 0-1-5165 0-1-516b 0-1-5182
  0-1-5196 0-1-51ab 0-1-51e0 0-1-51f5 0-1-5200 0-1-529b 0-1-52f9 0-1-5315 0-1-531a 0-1-5338
  0-1-5341 0-1-535c 0-1-5369 0-1-5382 0-1-53b6 0-1-53c8 0-1-53e3 0-1-56d7 0-1-571f 0-1-58eb
  0-1-5902 0-1-590a 0-1-5915 0-1-5927 0-1-5973 0-1-5b50 0-1-5b80 0-1-5bf8 0-1-5c0f 0-1-5c22
  0-1-5c38 0-1-5c6e 0-1-5c71 0-1-5ddb 0-1-5de5 0-1-5df1 0-1-5dfe 0-1-5e72 0-1-5e7a 0-1-5e7f
  0-1-5ef4 0-1-5efe 0-1-5f0b 0-1-5f13 0-1-5f50 0-1-5f61 0-1-5f73 0-1-5fc3 0-1-6208 0-1-6236
  0-1-624b 0-1-652f 0-1-6534 0-1-6587 0-1-6597 0-1-65a4 0-1-65b9 0-1-65e0 0-1-65e5 0-1-66f0
  0-1-6708 0-1-6728 0-1-6b20 0-1-6b62 0-1-6b79 0-1-6bb3 0-1-6bcb 0-1-6bd4 0-1-6bdb 0-1-6c0f
  0-1-6c14 0-1-6c34 0-1-706b 0-1-722a 0-1-7236 0-1-723b 0-1-723f 0-1-7247 0-1-7259 0-1-725b
  0-1-72ac 0-1-7384 0-1-7389 0-1-74dc 0-1-74e6 0-1-7518 0-1-751f 0-1-7528 0-1-7530 0-1-758b
  0-1-7592 0-1-7676 0-1-767d 0-1-76ae 0-1-76bf 0-1-76ee 0-1-77db 0-1-77e2 0-1-77f3 0-1-793a
  0-1-79b8 0-1-79be 0-1-7a74 0-1-7acb 0-1-7af9 0-1-7c73 0-1-7cf8 0-1-7f36 0-1-7f51 0-1-7f8a
  0-1-7fbd 0-1-8001 0-1-800c 0-1-8012 0-1-8033 0-1-807f 0-1-8089 0-1-81e3 0-1-81ea 0-1-81f3
  0-1-81fc 0-1-820c 0-1-821b 0-1-821f 0-1-826e 0-1-8272 0-1-8278 0-1-864d 0-1-866b 0-1-8840
  0-1-884c 0-1-8863 0-1-897e 0-1-898b 0-1-89d2 0-1-8a00 0-1-8c37 0-1-8c46 0-1-8c55 0-1-8c78
  0-1-8c9d 0-1-8d64 0-1-8d70 0-1-8db3 0-1-8eab 0-1-8eca 0-1-8f9b 0-1-8fb0 0-1-8fb5 0-1-9091
  0-1-9149 0-1-91c6 0-1-91cc 0-1-91d1 0-1-9577 0-1-9580 0-1-961c 0-1-96b6 0-1-96b9 0-1-96e8
  0-1-9751 0-1-975e 0-1-9762 0-1-9769 0-1-97cb 0-1-97ed 0-1-97f3 0-1-9801 0-1-98a8 0-1-98db
  0-1-98df 0-1-9996 0-1-9999 0-1-99ac 0-1-9aa8 0-1-9ad8 0-1-9adf 0-1-9b25 0-1-9b2f 0-1-9b32
  0-1-9b3c 0-1-9b5a 0-1-9ce5 0-1-9e75 0-1-9e7f 0-1-9ea5 0-1-9ebb 0-1-9ec3 0-1-9ecd 0-1-9ed1
  0-1-9ef9 0-1-9efd 0-1-9f0e 0-1-9f13 0-1-9f20 0-1-9f3b 0-1-9f4a 0-1-9f52 0-1-9f8d 0-1-9f9c
  0-1-9fa0 2a-1-20 1-1-2e 33-1-3012 1-1-5341 0-2-5344 f6-2-1100 0-1-11aa 0-1-1102 0-2-11ac
  0-3-1103 0-6-11b0 0-1-111a 0-3-1106 0-1-1121 0-a-1109 0-15-1161 1-2-1114 0-2-11c7 0-1-11cc
  0-1-11ce 0-1-11d3 0-1-11d7 0-1-11d9 0-1-111c 0-1-11dd 0-1-11df 0-2-111d 0-1-1120 0-2-1122
  0-1-1127 0-1-1129 0-5-112b 0-1-1132 0-1-1136 0-1-1140 0-1-1147 0-1-114c 0-2-11f1 0-3-1157
  0-2-1184 0-1-1188 0-2-1191 0-1-1194 0-1-119e 0-1-11a1 3-1-4e00 0-1-4e8c 0-1-4e09 0-1-56db
  0-1-4e0a 0-1-4e2d 0-1-4e0b 0-1-7532 0-1-4e59 0-1-4e19 0-1-4e01 0-1-5929 0-1-5730 0-1-4eba
  a4-1-554f 0-1-5e7c 0-1-6587 0-1-7b8f 18-1-1100 0-2-1102 0-3-1105 0-1-1109 0-2-110b 0-5-110e
  0-1-ac00 0-1-b098 0-1-b2e4 0-1-b77c 0-1-b9c8 0-1-bc14 0-1-c0ac 0-1-c544 0-1-c790 0-1-cc28
  0-1-ce74 0-1-d0c0 0-1-d30c 0-1-d558 2-1-c6b0 1-1-4e00 0-1-4e8c 0-1-4e09 0-1-56db 0-1-4e94
  0-1-516d 0-1-4e03 0-1-516b 0-1-4e5d 0-1-5341 0-1-6708 0-1-706b 0-1-6c34 0-1-6728 0-1-91d1
  0-1-571f 0-1-65e5 0-1-682a 0-1-6709 0-1-793e 0-1-540d 0-1-7279 0-1-8ca1 0-1-795d 0-1-52b4
  0-1-79d8 0-1-7537 0-1-5973 0-1-9069 0-1-512a 0-1-5370 0-1-6ce8 0-1-9805 0-1-4f11 0-1-5199
  0-1-6b63 0-1-4e0a 0-1-4e2d 0-1-4e0b 0-1-5de6 0-1-53f3 0-1-533b 0-1-5b97 0-1-5b66 0-1-76e3
  0-1-4f01 0-1-8cc7 0-1-5354 0-1-591c 1f-1-30a2 0-1-30a4 0-1-30a6 0-1-30a8 0-2-30aa 0-1-30ad
  0-1-30af 0-1-30b1 0-1-30b3 0-1-30b5 0-1-30b7 0-1-30b9 0-1-30bb 0-1-30bd 0-1-30bf 0-1-30c1
  0-1-30c4 0-1-30c6 0-1-30c8 0-6-30ca 0-1-30d2 0-1-30d5 0-1-30d8 0-1-30db 0-5-30de 0-1-30e4
  0-1-30e6 0-6-30e8 0-4-30ef 739d-1-44a 0-1-44c d2-1-a76f c-1-1d79 f-1-265 1c-1-266 0-1-25c
  0-1-261 0-1-26c 0-1-26a 1-1-29e 0-1-287 0-1-29d 0-1-ab53 10-1-a794 0-1-282 0-1-1d8e 4-1-264
  10-1-19b 14-1-73 0-1-63 0-1-66 0-1-71 3-1-127 0-1-153 362-1-a727 0-1-ab37 0-1-26b 0-1-ab52
  9-1-28d 6-50-13a0 4d40-1-8c48 0-1-66f4 0-1-8eca 0-1-8cc8 0-1-6ed1 0-1-4e32 0-1-53e5 0-1-9f9c
  0-1-9f9c 0-1-5951 0-1-91d1 0-1-5587 0-1-5948 0-1-61f6 0-1-7669 0-1-7f85 0-1-863f 0-1-87ba
  0-1-88f8 0-1-908f 0-1-6a02 0-1-6d1b 0-1-70d9 0-1-73de 0-1-843d 0-1-916a 0-1-99f1 0-1-4e82
  0-1-5375 0-1-6b04 0-1-721b 0-1-862d 0-1-9e1e 0-1-5d50 0-1-6feb 0-1-85cd 0-1-8964 0-1-62c9
  0-1-81d8 0-1-881f 0-1-5eca 0-1-6717 0-1-6d6a 0-1-72fc 0-1-90ce 0-1-4f86 0-1-51b7 0-1-52de
  0-1-64c4 0-1-6ad3 0-1-7210 0-1-76e7 0-1-8001 0-1-8606 0-1-865c 0-1-8def 0-1-9732 0-1-9b6f
  0-1-9dfa 0-1-788c 0-1-797f 0-1-7da0 0-1-83c9 0-1-9304 0-1-9e7f 0-1-8ad6 0-1-58df 0-1-5f04
  0-1-7c60 0-1-807e 0-1-7262 0-1-78ca 0-1-8cc2 0-1-96f7 0-1-58d8 0-1-5c62 0-1-6a13 0-1-6dda
  0-1-6f0f 0-1-7d2f 0-1-7e37 0-1-964b 0-1-52d2 0-1-808b 0-1-51dc 0-1-51cc 0-1-7a1c 0-1-7dbe
  0-1-83f1 0-1-9675 0-1-8b80 0-1-62cf 0-1-6a02 0-1-8afe 0-1-4e39 0-1-5be7 0-1-6012 0-1-7387
  0-1-7570 0-1-5317 0-1-78fb 0-1-4fbf 0-1-5fa9 0-1-4e0d 0-1-6ccc 0-1-6578 0-1-7d22 0-1-53c3
  0-1-585e 0-1-7701 0-1-8449 0-1-8aaa 0-1-6bba 0-1-8fb0 0-1-6c88 0-1-62fe 0-1-82e5 0-1-63a0
  0-1-7565 0-1-4eae 0-1-5169 0-1-51c9 0-1-6881 0-1-7ce7 0-1-826f 0-1-8ad2 0-1-91cf 0-1-52f5
  0-1-5442 0-1-5973 0-1-5eec 0-1-65c5 0-1-6ffe 0-1-792a 0-1-95ad 0-1-9a6a 0-1-9e97 0-1-9ece
  0-1-529b 0-1-66c6 0-1-6b77 0-1-8f62 0-1-5e74 0-1-6190 0-1-6200 0-1-649a 0-1-6f23 0-1-7149
  0-1-7489 0-1-79ca 0-1-7df4 0-1-806f 0-1-8f26 0-1-84ee 0-1-9023 0-1-934a 0-1-5217 0-1-52a3
  0-1-54bd 0-1-70c8 0-1-88c2 0-1-8aaa 0-1-5ec9 0-1-5ff5 0-1-637b 0-1-6bae 0-1-7c3e 0-1-7375
  0-1-4ee4 0-1-56f9 0-1-5be7 0-1-5dba 0-1-601c 0-1-73b2 0-1-7469 0-1-7f9a 0-1-8046 0-1-9234
  0-1-96f6 0-1-9748 0-1-9818 0-1-4f8b 0-1-79ae 0-1-91b4 0-1-96b8 0-1-60e1 0-1-4e86 0-1-50da
  0-1-5bee 0-1-5c3f 0-1-6599 0-1-6a02 0-1-71ce 0-1-7642 0-1-84fc 0-1-907c 0-1-9f8d 0-1-6688
  0-1-962e 0-1-5289 0-1-677b 0-1-67f3 0-1-6d41 0-1-6e9c 0-1-7409 0-1-7559 0-1-786b 0-1-7d10
  0-1-985e 0-1-516d 0-1-622e 0-1-9678 0-1-502b 0-1-5d19 0-1-6dea 0-1-8f2a 0-1-5f8b 0-1-6144
  0-1-6817 0-1-7387 0-1-9686 0-1-5229 0-1-540f 0-1-5c65 0-1-6613 0-1-674e 0-1-68a8 0-1-6ce5
  0-1-7406 0-1-75e2 0-1-7f79 0-1-88cf 0-1-88e1 0-1-91cc 0-1-96e2 0-1-533f 0-1-6eba 0-1-541d
  0-1-71d0 0-1-7498 0-1-85fa 0-1-96a3 0-1-9c57 0-1-9e9f 0-1-6797 0-1-6dcb 0-1-81e8 0-1-7acb
  0-1-7b20 0-1-7c92 0-1-72c0 0-1-7099 0-1-8b58 0-1-4ec0 0-1-8336 0-1-523a 0-1-5207 0-1-5ea6
  0-1-62d3 0-1-7cd6 0-1-5b85 0-1-6d1e 0-1-66b4 0-1-8f3b 0-1-884c 0-1-964d 0-1-898b 0-1-5ed3
  0-1-5140 0-1-55c0 2-1-585a 1-1-6674 2-1-51de 0-1-732a 0-1-76ca 0-1-793c 0-1-795e 0-1-7965
  0-1-798f 0-1-9756 0-1-7cbe 0-1-7fbd 1-1-8612 1-1-8af8 2-1-9038 0-1-90fd 3-1-98ef 0-1-98fc
  0-1-9928 0-1-9db4 0-1-90de 0-1-96b7 0-1-4fae 0-1-50e7 0-1-514d 0-1-52c9 0-1-52e4 0-1-5351
  0-1-559d 0-1-5606 0-1-5668 0-1-5840 0-1-58a8 0-1-5c64 0-1-5c6e 0-1-6094 0-1-6168 0-1-618e
  0-1-61f2 0-1-654f 0-1-65e2 0-1-6691 0-1-6885 0-1-6d77 0-1-6e1a 0-1-6f22 0-1-716e 0-1-722b
  0-1-7422 0-1-7891 0-1-793e 0-1-7949 0-1-7948 0-1-7950 0-1-7956 0-1-795d 0-2-798d 0-1-7a40
  0-1-7a81 0-1-7bc0 0-1-7df4 0-1-7e09 0-1-7e41 0-1-7f72 0-1-8005 0-1-81ed 0-1-8279 0-1-8279
  0-1-8457 0-1-8910 0-1-8996 0-1-8b01 0-1-8b39 0-1-8cd3 0-1-8d08 0-1-8fb6 0-1-9038 0-1-96e3
  0-1-97ff 0-1-983b 0-1-6075 0-1-242ee 0-1-8218 2-1-4e26 0-1-51b5 0-1-5168 0-1-4f80 0-1-5145
  0-1-5180 0-1-52c7 0-1-52fa 0-1-559d 0-1-5555 0-1-5599 0-1-55e2 0-1-585a 0-1-58b3 0-1-5944
  0-1-5954 0-1-5a62 0-1-5b28 0-1-5ed2 0-1-5ed9 0-1-5f69 0-1-5fad 0-1-60d8 0-1-614e 0-1-6108
  0-1-618e 0-1-6160 0-1-61f2 0-1-6234 0-1-63c4 0-1-641c 0-1-6452 0-1-6556 0-1-6674 0-1-6717
  0-1-671b 0-1-6756 0-1-6b79 0-1-6bba 0-1-6d41 0-1-6edb 0-1-6ecb 0-1-6f22 0-1-701e 0-1-716e
  0-1-77a7 0-1-7235 0-1-72af 0-1-732a 0-1-7471 0-1-7506 0-1-753b 0-1-761d 0-1-761f 0-1-76ca
  0-1-76db 0-1-76f4 0-1-774a 0-1-7740 0-1-78cc 0-1-7ab1 0-1-7bc0 0-1-7c7b 0-1-7d5b 0-1-7df4
  0-1-7f3e 0-1-8005 0-1-8352 0-1-83ef 0-1-8779 0-1-8941 0-1-8986 0-1-8996 0-1-8abf 0-1-8af8
  0-1-8acb 0-1-8b01 0-1-8afe 0-1-8aed 0-1-8b39 0-1-8b8a 0-1-8d08 0-1-8f38 0-1-9072 0-1-9199
  0-1-9276 0-1-967c 0-1-96e3 0-1-9756 0-1-97db 0-1-97ff 0-1-980b 0-1-983b 0-1-9b12 0-1-9f9c
  0-1-2284a 0-1-22844 0-1-233d5 0-1-3b9d 0-1-4018 0-1-4039 0-1-25249 0-1-25cd0 0-1-27ed3 0-1-9f43
  0-1-9f8e 46-1-5e2 0-1-5d0 0-2-5d3 0-3-5db 0-1-5e8 0-1-5ea 0-1-2b 26-1-671 0-1-671 0-1-67b
  0-1-67b 0-1-67b 0-1-67b 0-1-67e 0-1-67e 0-1-67e 0-1-67e 0-1-680 0-1-680 0-1-680 0-1-680 0-1-67a
  0-1-67a 0-1-67a 0-1-67a 0-1-67f 0-1-67f 0-1-67f 0-1-67f 0-1-679 0-1-679 0-1-679 0-1-679 0-1-6a4
  0-1-6a4 0-1-6a4 0-1-6a4 0-1-6a6 0-1-6a6 0-1-6a6 0-1-6a6 0-1-684 0-1-684 0-1-684 0-1-684 0-1-683
  0-1-683 0-1-683 0-1-683 0-1-686 0-1-686 0-1-686 0-2-686 0-1-687 0-1-687 0-1-687 0-1-68d 0-1-68d
  0-1-68c 0-1-68c 0-1-68e 0-1-68e 0-1-688 0-1-688 0-1-698 0-1-698 0-1-691 0-1-691 0-1-6a9 0-1-6a9
  0-1-6a9 0-1-6a9 0-1-6af 0-1-6af 0-1-6af 0-1-6af 0-1-6b3 0-1-6b3 0-1-6b3 0-1-6b3 0-1-6b1 0-1-6b1
  0-1-6b1 0-1-6b1 0-1-6ba 0-2-6ba 0-1-6bb 0-1-6bb 0-1-6bb 0-1-6c0 0-2-6c0 0-1-6c1 0-1-6c1 0-1-6c1
  0-1-6be 0-1-6be 0-1-6be 0-1-6be 0-1-6d2 0-2-6d2 0-1-6d3 21-1-6ad 0-1-6ad 0-1-6ad 0-1-6ad
  0-1-6c7 0-1-6c7 0-1-6c6 0-1-6c6 0-1-6c8 0-1-6c8 1-1-6cb 0-1-6cb 0-1-6c5 0-1-6c5 0-1-6c9 0-1-6c9
  0-1-6d0 0-1-6d0 0-1-6d0 0-1-6d0 0-1-649 0-1-649 12-1-6cc 0-1-6cc 0-1-6cc 0-1-6cc 210-1-2c
  0-1-3001 1-2-3a 0-1-21 0-1-3f 0-2-3016 18-1-2014 0-1-2013 0-1-5f 0-1-5f 0-2-28 0-1-7b 0-1-7d
  0-2-3014 0-2-3010 0-2-300a 0-2-3008 0-4-300c 2-1-5b 0-1-5d 4-1-5f 0-1-5f 0-1-5f 0-1-2c 0-1-3001
  2-1-3b 0-1-3a 0-1-3f 0-1-21 0-1-2014 0-2-28 0-1-7b 0-1-7d 0-2-3014 0-1-23 0-1-26 0-2-2a 0-1-2d
  0-1-3c 0-1-3e 0-1-3d 1-1-5c 0-2-24 0-1-40 14-2-621 0-2-622 0-2-623 0-2-624 0-2-625 0-1-626
  0-1-626 0-2-626 0-2-627 0-1-628 0-1-628 0-2-628 0-2-629 0-1-62a 0-1-62a 0-2-62a 0-1-62b 0-1-62b
  0-2-62b 0-1-62c 0-1-62c 0-2-62c 0-1-62d 0-1-62d 0-2-62d 0-1-62e 0-1-62e 0-2-62e 0-2-62f 0-2-630
  0-2-631 0-2-632 0-1-633 0-1-633 0-2-633 0-1-634 0-1-634 0-2-634 0-1-635 0-1-635 0-2-635 0-1-636
  0-1-636 0-2-636 0-1-637 0-1-637 0-2-637 0-1-638 0-1-638 0-2-638 0-1-639 0-1-639 0-2-639 0-1-63a
  0-1-63a 0-1-63a 0-1-641 0-1-641 0-1-641 0-2-641 0-1-642 0-1-642 0-2-642 0-1-643 0-1-643 0-2-643
  0-1-644 0-1-644 0-2-644 0-1-645 0-1-645 0-2-645 0-1-646 0-1-646 0-2-646 0-1-647 0-1-647 0-2-647
  0-2-648 0-2-649 0-1-64a 0-1-64a 0-1-64a c-20-21 0-1a-61 0-24-5b 0-2-2985 0-1-2e 0-2-300c
  0-1-3001 0-1-30fb 0-1-30f2 0-1-30a1 0-1-30a3 0-1-30a5 0-1-30a7 0-1-30a9 0-1-30e3 0-1-30e5
  0-1-30e7 0-1-30c3 0-1-30fc 0-1-30a2 0-1-30a4 0-1-30a6 0-1-30a8 0-2-30aa 0-1-30ad 0-1-30af
  0-1-30b1 0-1-30b3 0-1-30b5 0-1-30b7 0-1-30b9 0-1-30bb 0-1-30bd 0-1-30bf 0-1-30c1 0-1-30c4
  0-1-30c6 0-1-30c8 0-6-30ca 0-1-30d2 0-1-30d5 0-1-30d8 0-1-30db 0-5-30de 0-1-30e4 0-1-30e6
  0-6-30e8 0-1-30ef 0-1-30f3 0-2-3099 1-2-1100 0-1-11aa 0-1-1102 0-2-11ac 0-3-1103 0-6-11b0
  0-1-111a 0-3-1106 0-1-1121 0-a-1109 3-6-1161 2-6-1167 2-6-116d 2-3-1173 3-2-a2 0-1-ac 1-1-a6
  0-1-a5 0-1-20a9 1-1-2502 0-4-2190 0-1-25a0 0-1-25cb 411-28-10428 88-24-104d8 9c-b-10597
  1-f-105a3 1-7-105b3 1-2-105bb 1eb-2-2d0 0-1-e6 0-1-299 0-1-253 1-1-2a3 0-1-ab66 0-1-2a5 0-1-2a4
  0-2-256 0-1-1d91 0-1-258 0-1-25e 0-1-2a9 0-1-264 0-1-262 0-1-260 0-1-29b 0-1-127 0-1-29c
  0-1-267 0-1-284 0-2-2aa 0-1-26c 0-1-1df04 0-1-a78e 0-1-26e 0-1-1df05 0-1-28e 0-1-1df06 0-1-f8
  0-2-276 0-1-71 0-1-27a 0-1-1df08 0-2-27d 0-1-280 0-1-2a8 0-1-2a6 0-1-ab67 0-1-2a7 0-1-288
  0-1-2c71 1-1-28f 0-2-2a1 0-1-298 0-3-1c0 0-1-1df0a 0-1-1df1e 4c5-33-10cc0 9d-16-10d70
  b3a-20-118c0 5580-20-16e60 40-19-16ebb 5e1d-1a-61 0-a-30 706-1a-61 0-1a-61 0-1a-61 0-7-61
  1-12-69 0-1a-61 0-1a-61 0-1-61 1-2-63 2-1-67 2-2-6a 2-4-6e 1-8-73 0-4-61 1-1-66 1-7-68 1-b-70
  0-1a-61 0-1a-61 0-2-61 1-4-64 2-8-6a 1-7-73 1-1a-61 0-2-61 1-4-64 1-5-69 1-1-6f 3-7-73 1-1a-61
  0-1a-61 0-1a-61 0-1a-61 0-1a-61 0-1a-61 0-1a-61 0-1a-61 0-1a-61 0-1a-61 0-1a-61 0-1a-61 0-1a-61
  0-1-131 0-1-237 2-11-3b1 0-1-3b8 0-7-3c3 0-1-2207 0-11-3b1 0-1-3c3 0-7-3c3 0-1-2202 0-1-3b5
  0-1-3b8 0-1-3ba 0-1-3c6 0-1-3c1 0-1-3c0 0-11-3b1 0-1-3b8 0-7-3c3 0-1-2207 0-11-3b1 0-1-3c3
  0-7-3c3 0-1-2202 0-1-3b5 0-1-3b8 0-1-3ba 0-1-3c6 0-1-3c1 0-1-3c0 0-11-3b1 0-1-3b8 0-7-3c3
  0-1-2207 0-11-3b1 0-1-3c3 0-7-3c3 0-1-2202 0-1-3b5 0-1-3b8 0-1-3ba 0-1-3c6 0-1-3c1 0-1-3c0
  0-11-3b1 0-1-3b8 0-7-3c3 0-1-2207 0-11-3b1 0-1-3c3 0-7-3c3 0-1-2202 0-1-3b5 0-1-3b8 0-1-3ba
  0-1-3c6 0-1-3c1 0-1-3c0 0-11-3b1 0-1-3b8 0-7-3c3 0-1-2207 0-11-3b1 0-1-3c3 0-7-3c3 0-1-2202
  0-1-3b5 0-1-3b8 0-1-3ba 0-1-3c6 0-1-3c1 0-1-3c0 0-1-3dd 0-1-3dd 2-a-30 0-a-30 0-a-30 0-a-30
  0-a-30 830-9-430 0-3-43a 0-b-43e 0-1-44b 0-2-44d 0-1-a689 0-1-4d9 0-1-456 0-1-458 0-1-4e9
  0-1-4af 0-1-4cf 0-9-430 0-2-43a 0-2-43e 0-1-441 0-6-443 0-2-44a 0-1-491 0-1-456 0-1-455 0-1-45f
  0-1-4ab 0-1-a651 0-1-4b1 892-22-1e922 4de-2-627 0-1-62c 0-1-62f 1-1-648 0-1-632 0-1-62d 0-1-637
  0-1-64a 0-4-643 0-1-633 0-1-639 0-1-641 0-1-635 0-1-642 0-1-631 0-1-634 0-2-62a 0-1-62e 0-1-630
  0-1-636 0-1-638 0-1-63a 0-1-66e 0-1-6ba 0-1-6a1 0-1-66f 1-1-628 0-1-62c 1-1-647 2-1-62d 1-1-64a
  0-4-643 0-1-633 0-1-639 0-1-641 0-1-635 0-1-642 1-1-634 0-2-62a 0-1-62e 1-1-636 1-1-63a 6-1-62c
  4-1-62d 1-1-64a 1-1-644 1-1-646 0-1-633 0-1-639 1-1-635 0-1-642 1-1-634 2-1-62e 1-1-636 1-1-63a
  1-1-6ba 1-1-66f 1-1-628 0-1-62c 1-1-647 2-1-62d 0-1-637 0-1-64a 0-1-643 1-2-645 0-1-633 0-1-639
  0-1-641 0-1-635 0-1-642 1-1-634 0-2-62a 0-1-62e 1-1-636 0-1-638 0-1-63a 0-1-66e 1-1-6a1 1-2-627
  0-1-62c 0-1-62f 0-2-647 0-1-632 0-1-62d 0-1-637 0-1-64a 1-3-644 0-1-633 0-1-639 0-1-641 0-1-635
  0-1-642 0-1-631 0-1-634 0-2-62a 0-1-62e 0-1-630 0-1-636 0-1-638 0-1-63a 5-1-628 0-1-62c 0-1-62f
  1-1-648 0-1-632 0-1-62d 0-1-637 0-1-64a 1-3-644 0-1-633 0-1-639 0-1-641 0-1-635 0-1-642 0-1-631
  0-1-634 0-2-62a 0-1-62e 0-1-630 0-1-636 0-1-638 0-1-63a 26f-1-63 0-1-72 3-1a-61 b8-1-30b5
  d-1-624b 0-1-5b57 0-1-53cc 0-1-30c7 0-1-4e8c 0-1-591a 0-1-89e3 0-1-5929 0-1-4ea4 0-1-6620
  0-1-7121 0-1-6599 0-1-524d 0-1-5f8c 0-1-518d 0-1-65b0 0-1-521d 0-1-7d42 0-1-751f 0-1-8ca9
  0-1-58f0 0-1-5439 0-1-6f14 0-1-6295 0-1-6355 0-1-4e00 0-1-4e09 0-1-904a 0-1-5de6 0-1-4e2d
  0-1-53f3 0-1-6307 0-1-8d70 0-1-6253 0-1-7981 0-1-7a7a 0-1-5408 0-1-6e80 0-1-6709 0-1-6708
  0-1-7533 0-1-5272 0-1-55b6 0-1-914d 14-1-5f97 0-1-53ef 99e-a-30 fc06-1-4e3d 0-1-4e38 0-1-4e41
  0-1-20122 0-1-4f60 0-1-4fae 0-1-4fbb 0-1-5002 0-1-507a 0-1-5099 0-1-50e7 0-1-50cf 0-1-349e
  0-1-2063a 0-1-514d 0-1-5154 0-1-5164 0-1-5177 0-1-2051c 0-1-34b9 0-1-5167 0-1-518d 0-1-2054b
  0-1-5197 0-1-51a4 0-1-4ecc 0-1-51ac 0-1-51b5 0-1-291df 0-1-51f5 0-1-5203 0-1-34df 0-1-523b
  0-1-5246 0-1-5272 0-1-5277 0-1-3515 0-1-52c7 0-1-52c9 0-1-52e4 0-1-52fa 0-2-5305 0-1-5317
  0-1-5349 0-1-5351 0-1-535a 0-1-5373 0-1-537d 0-1-537f 0-1-537f 0-1-537f 0-1-20a2c 0-1-7070
  0-1-53ca 0-1-53df 0-1-20b63 0-1-53eb 0-1-53f1 0-1-5406 0-1-549e 0-1-5438 0-1-5448 0-1-5468
  0-1-54a2 0-1-54f6 0-1-5510 0-1-5553 0-1-5563 0-1-5584 0-1-5584 0-1-5599 0-1-55ab 0-1-55b3
  0-1-55c2 0-1-5716 0-1-5606 0-1-5717 0-1-5651 0-1-5674 0-1-5207 0-1-58ee 0-1-57ce 0-1-57f4
  0-1-580d 0-1-578b 0-1-5832 0-1-5831 0-1-58ac 0-1-214e4 0-1-58f2 0-1-58f7 0-1-5906 0-1-591a
  0-1-5922 0-1-5962 0-1-216a8 0-1-216ea 0-1-59ec 0-1-5a1b 0-1-5a27 0-1-59d8 0-1-5a66 0-1-36ee
  0-1-36fc 0-1-5b08 0-1-5b3e 0-1-5b3e 0-1-219c8 0-1-5bc3 0-1-5bd8 0-1-5be7 0-1-5bf3 0-1-21b18
  0-1-5bff 0-1-5c06 0-1-5f53 0-1-5c22 0-1-3781 0-1-5c60 0-1-5c6e 0-1-5cc0 0-1-5c8d 0-1-21de4
  0-1-5d43 0-1-21de6 0-1-5d6e 0-1-5d6b 0-1-5d7c 0-2-5de1 0-1-382f 0-1-5dfd 0-1-5e28 0-1-5e3d
  0-1-5e69 0-1-3862 0-1-22183 0-1-387c 0-1-5eb0 0-1-5eb3 0-1-5eb6 0-1-5eca 0-1-2a392 0-1-5efe
  0-1-22331 0-1-22331 0-1-8201 0-1-5f22 0-1-5f22 0-1-38c7 0-1-232b8 0-1-261da 0-1-5f62 0-1-5f6b
  0-1-38e3 0-1-5f9a 0-1-5fcd 0-1-5fd7 0-1-5ff9 0-1-6081 0-1-393a 0-1-391c 0-1-6094 0-1-226d4
  0-1-60c7 0-1-6148 0-1-614c 0-1-614e 0-1-614c 0-1-617a 0-1-618e 0-1-61b2 0-1-61a4 0-1-61af
  0-1-61de 0-1-61f2 0-1-61f6 0-1-6210 0-1-621b 0-1-625d 0-1-62b1 0-1-62d4 0-1-6350 0-1-22b0c
  0-1-633d 0-1-62fc 0-1-6368 0-1-6383 0-1-63e4 0-1-22bf1 0-1-6422 0-1-63c5 0-1-63a9 0-1-3a2e
  0-1-6469 0-1-647e 0-1-649d 0-1-6477 0-1-3a6c 0-1-654f 0-1-656c 0-1-2300a 0-1-65e3 0-1-66f8
  0-1-6649 0-1-3b19 0-1-6691 0-1-3b08 0-1-3ae4 0-1-5192 0-1-5195 0-1-6700 0-1-669c 0-1-80ad
  0-1-43d9 0-1-6717 0-1-671b 0-1-6721 0-1-675e 0-1-6753 0-1-233c3 0-1-3b49 0-1-67fa 0-1-6785
  0-1-6852 0-1-6885 0-1-2346d 0-1-688e 0-1-681f 0-1-6914 0-1-3b9d 0-1-6942 0-1-69a3 0-1-69ea
  0-1-6aa8 0-1-236a3 0-1-6adb 0-1-3c18 0-1-6b21 0-1-238a7 0-1-6b54 0-1-3c4e 0-1-6b72 0-1-6b9f
  0-2-6bba 0-1-23a8d 0-1-21d0b 0-1-23afa 0-1-6c4e 0-1-23cbc 0-1-6cbf 0-1-6ccd 0-1-6c67 0-1-6d16
  0-1-6d3e 0-1-6d77 0-1-6d41 0-1-6d69 0-1-6d78 0-1-6d85 0-1-23d1e 0-1-6d34 0-1-6e2f 0-1-6e6e
  0-1-3d33 0-1-6ecb 0-1-6ec7 0-1-23ed1 0-1-6df9 0-1-6f6e 0-1-23f5e 0-1-23f8e 0-1-6fc6 0-1-7039
  0-1-701e 0-1-701b 0-1-3d96 0-1-704a 0-1-707d 0-1-7077 0-1-70ad 0-1-20525 0-1-7145 0-1-24263
  0-1-719c 0-1-243ab 0-1-7228 0-1-7235 0-1-7250 0-1-24608 0-1-7280 0-1-7295 0-1-24735 0-1-24814
  0-1-737a 0-1-738b 0-1-3eac 0-1-73a5 0-1-3eb8 0-1-3eb8 0-1-7447 0-1-745c 0-1-7471 0-1-7485
  0-1-74ca 0-1-3f1b 0-1-7524 0-1-24c36 0-1-753e 0-1-24c92 0-1-7570 0-1-2219f 0-1-7610 0-1-24fa1
  0-1-24fb8 0-1-25044 0-1-3ffc 0-1-4008 0-1-76f4 0-1-250f3 0-1-250f2 0-1-25119 0-1-25133 0-2-771e
  0-1-771f 0-1-774a 0-1-4039 0-1-778b 0-1-4046 0-1-4096 0-1-2541d 0-1-784e 0-1-788c 0-1-78cc
  0-1-40e3 0-1-25626 0-1-7956 0-1-2569a 0-1-256c5 0-1-798f 0-1-79eb 0-1-412f 0-1-7a40 0-1-7a4a
  0-1-7a4f 0-1-2597c 0-1-25aa7 0-1-25aa7 0-1-7aee 0-1-4202 0-1-25bab 0-1-7bc6 0-1-7bc9 0-1-4227
  0-1-25c80 0-1-7cd2 0-1-42a0 0-1-7ce8 0-1-7ce3 0-1-7d00 0-1-25f86 0-1-7d63 0-1-4301 0-1-7dc7
  0-1-7e02 0-1-7e45 0-1-4334 0-1-26228 0-1-26247 0-1-4359 0-1-262d9 0-1-7f7a 0-1-2633e 0-1-7f95
  0-1-7ffa 0-1-8005 0-1-264da 0-1-26523 0-1-8060 0-1-265a8 0-1-8070 0-1-2335f 0-1-43d5 0-1-80b2
  0-1-8103 0-1-440b 0-1-813e 0-1-5ab5 0-1-267a7 0-1-267b5 0-1-23393 0-1-2339c 0-1-8201 0-1-8204
  0-1-8f9e 0-1-446b 0-1-8291 0-1-828b 0-1-829d 0-1-52b3 0-1-82b1 0-1-82b3 0-1-82bd 0-1-82e6
  0-1-26b3c 0-1-82e5 0-1-831d 0-1-8363 0-1-83ad 0-1-8323 0-1-83bd 0-1-83e7 0-1-8457 0-1-8353
  0-1-83ca 0-1-83cc 0-1-83dc 0-1-26c36 0-1-26d6b 0-1-26cd5 0-1-452b 0-1-84f1 0-1-84f3 0-1-8516
  0-1-273ca 0-1-8564 0-1-26f2c 0-1-455d 0-1-4561 0-1-26fb1 0-1-270d2 0-1-456b 0-1-8650 0-1-865c
  0-1-8667 0-1-8669 0-1-86a9 0-1-8688 0-1-870e 0-1-86e2 0-1-8779 0-1-8728 0-1-876b 0-1-8786
  0-1-45d7 0-1-87e1 0-1-8801 0-1-45f9 0-1-8860 0-1-8863 0-1-27667 0-1-88d7 0-1-88de 0-1-4635
  0-1-88fa 0-1-34bb 0-1-278ae 0-1-27966 0-1-46be 0-1-46c7 0-1-8aa0 0-1-8aed 0-1-8b8a 0-1-8c55
  0-1-27ca8 0-1-8cab 0-1-8cc1 0-1-8d1b 0-1-8d77 0-1-27f2f 0-1-20804 0-1-8dcb 0-1-8dbc 0-1-8df0
  0-1-208de 0-1-8ed4 0-1-8f38 0-1-285d2 0-1-285ed 0-1-9094 0-1-90f1 0-1-9111 0-1-2872e 0-1-911b
  0-1-9238 0-2-92d7 0-1-927c 0-1-93f9 0-1-9415 0-1-28bfa 0-1-958b 0-1-4995 0-1-95b7 0-1-28d77
  0-1-49e6 0-1-96c3 0-1-5db2 0-1-9723 0-1-29145 0-1-2921a 0-1-4a6e 0-1-4a76 0-1-97e0 0-1-2940a
  0-1-4ab2 0-1-29496 0-1-980b 0-1-980b 0-1-9829 0-1-295b6 0-1-98e2 0-1-4b33 0-1-9929 0-1-99a7
  0-1-99c2 0-1-99fe 0-1-4bce 0-1-29b30 0-1-9b12 0-1-9c40 0-1-9cfd 0-1-4cce 0-1-4ced 0-1-9d67
  0-1-2a0ce 0-1-4cf8 0-1-2a105 0-1-2a20e 0-1-2a291 0-1-9ebb 0-1-4d56 0-1-9ef9 0-1-9efe 0-1-9f05
  0-1-9f0f 0-1-9f16 0-1-9f3b 0-1-2a600"

/-- Code points that stand for several, with those. -/
def spelledTable : CodeTable := CodeTable.ofText
  "a8-1-20-308 6-1-20-304 4-1-20-301 3-1-20-327 3-1-31-2044-34 0-1-31-2044-32 0-1-33-2044-34
  71-1-69-307 1-1-69-6a 0-1-69-6a b-1-6c-b7 0-1-6c-b7 8-1-2bc-6e 7a-1-64-17e 0-1-64-17e
  0-1-64-17e 0-1-6c-6a 0-1-6c-6a 0-1-6c-6a 0-1-6e-6a 0-1-6e-6a 0-1-6e-6a 24-1-64-7a 0-1-64-7a
  0-1-64-7a e4-1-20-306 0-1-20-307 0-1-20-30a 0-1-20-328 0-1-20-303 0-1-20-30b 66-1-308-301
  35-1-20-3b9 9-1-20-301 0-1-20-308-301 201-1-565-582 ed-1-627-674 0-1-648-674 0-1-6c7-674
  0-1-64a-674 2df-1-915-93c 0-1-916-93c 0-1-917-93c 0-1-91c-93c 0-1-921-93c 0-1-922-93c
  0-1-92b-93c 0-1-92f-93c 7c-1-9a1-9bc 0-1-9a2-9bc 1-1-9af-9bc 53-1-a32-a3c 2-1-a38-a3c
  22-1-a16-a3c 0-1-a17-a3c 0-1-a1c-a3c 2-1-a2b-a3c fd-1-b21-b3c 0-1-b22-b3c 2d5-1-e4d-e32
  7f-1-ecd-eb2 28-1-eab-e99 0-1-eab-ea1 65-1-f42-fb7 9-1-f4c-fb7 4-1-f51-fb7 4-1-f56-fb7
  4-1-f5b-fb7 c-1-f40-fb5 9-1-f71-f72 1-1-f71-f74 0-1-fb2-f80 0-1-fb2-f71-f80 0-1-fb3-f80
  0-1-fb3-f71-f80 7-1-f71-f80 11-1-f92-fb7 9-1-f9c-fb7 4-1-fa1-fb7 4-1-fa6-fb7 4-1-fab-fb7
  c-1-f90-fb5 ee0-1-61-2be e5-1-1f00-3b9 0-1-1f01-3b9 0-1-1f02-3b9 0-1-1f03-3b9 0-1-1f04-3b9
  0-1-1f05-3b9 0-1-1f06-3b9 0-1-1f07-3b9 0-1-1f00-3b9 0-1-1f01-3b9 0-1-1f02-3b9 0-1-1f03-3b9
  0-1-1f04-3b9 0-1-1f05-3b9 0-1-1f06-3b9 0-1-1f07-3b9 0-1-1f20-3b9 0-1-1f21-3b9 0-1-1f22-3b9
  0-1-1f23-3b9 0-1-1f24-3b9 0-1-1f25-3b9 0-1-1f26-3b9 0-1-1f27-3b9 0-1-1f20-3b9 0-1-1f21-3b9
  0-1-1f22-3b9 0-1-1f23-3b9 0-1-1f24-3b9 0-1-1f25-3b9 0-1-1f26-3b9 0-1-1f27-3b9 0-1-1f60-3b9
  0-1-1f61-3b9 0-1-1f62-3b9 0-1-1f63-3b9 0-1-1f64-3b9 0-1-1f65-3b9 0-1-1f66-3b9 0-1-1f67-3b9
  0-1-1f60-3b9 0-1-1f61-3b9 0-1-1f62-3b9 0-1-1f63-3b9 0-1-1f64-3b9 0-1-1f65-3b9 0-1-1f66-3b9
  0-1-1f67-3b9 2-1-1f70-3b9 0-1-3b1-3b9 0-1-3ac-3b9 2-1-1fb6-3b9 4-1-3b1-3b9 0-1-20-313
  1-1-20-313 0-1-20-342 0-1-20-308-342 0-1-1f74-3b9 0-1-3b7-3b9 0-1-3ae-3b9 2-1-1fc6-3b9
  4-1-3b7-3b9 0-1-20-313-300 0-1-20-313-301 0-1-20-313-342 d-1-20-314-300 0-1-20-314-301
  0-1-20-314-342 d-1-20-308-300 0-1-20-308-301 3-1-1f7c-3b9 0-1-3c9-3b9 0-1-3ce-3b9 2-1-1ff6-3b9
  4-1-3c9-3b9 0-1-20-301 0-1-20-314 18-1-20-333 1b-1-2032-2032 0-1-2032-2032-2032 1-1-2035-2035
  0-1-2035-2035-2035 4-1-21-21 1-1-20-305 8-1-3f-3f 0-1-3f-21 0-1-21-3f d-1-2032-2032-2032-2032
  50-1-72-73 57-1-61-2f-63 0-1-61-2f-73 1-1-b0-63 1-1-63-2f-6f 0-1-63-2f-75 2-1-b0-66 c-1-6e-6f
  9-1-73-6d 0-1-74-65-6c 0-1-74-6d 18-1-66-61-78 14-1-31-2044-37 0-1-31-2044-39 0-1-31-2044-31-30
  0-1-31-2044-33 0-1-32-2044-33 0-1-31-2044-35 0-1-32-2044-35 0-1-33-2044-35 0-1-34-2044-35
  0-1-31-2044-36 0-1-35-2044-36 0-1-31-2044-38 0-1-33-2044-38 0-1-35-2044-38 0-1-37-2044-38
  0-1-31-2044 1-1-69-69 0-1-69-69-69 0-1-69-76 1-1-76-69 0-1-76-69-69 0-1-76-69-69-69 0-1-69-78
  1-1-78-69 0-1-78-69-69 5-1-69-69 0-1-69-69-69 0-1-69-76 1-1-76-69 0-1-76-69-69 0-1-76-69-69-69
  0-1-69-78 1-1-78-69 0-1-78-69-69 d-1-30-2044-33 a2-1-222b-222b 0-1-222b-222b-222b 1-1-222e-222e
  0-1-222e-222e-222e 238-1-31-30 0-1-31-31 0-1-31-32 0-1-31-33 0-1-31-34 0-1-31-35 0-1-31-36
  0-1-31-37 0-1-31-38 0-1-31-39 0-1-32-30 0-1-28-31-29 0-1-28-32-29 0-1-28-33-29 0-1-28-34-29
  0-1-28-35-29 0-1-28-36-29 0-1-28-37-29 0-1-28-38-29 0-1-28-39-29 0-1-28-31-30-29
  0-1-28-31-31-29 0-1-28-31-32-29 0-1-28-31-33-29 0-1-28-31-34-29 0-1-28-31-35-29 0-1-28-31-36-29
  0-1-28-31-37-29 0-1-28-31-38-29 0-1-28-31-39-29 0-1-28-32-30-29 14-1-28-61-29 0-1-28-62-29
  0-1-28-63-29 0-1-28-64-29 0-1-28-65-29 0-1-28-66-29 0-1-28-67-29 0-1-28-68-29 0-1-28-69-29
  0-1-28-6a-29 0-1-28-6b-29 0-1-28-6c-29 0-1-28-6d-29 0-1-28-6e-29 0-1-28-6f-29 0-1-28-70-29
  0-1-28-71-29 0-1-28-72-29 0-1-28-73-29 0-1-28-74-29 0-1-28-75-29 0-1-28-76-29 0-1-28-77-29
  0-1-28-78-29 0-1-28-79-29 0-1-28-7a-29 556-1-222b-222b-222b-222b 67-1-3a-3a-3d 0-1-3d-3d
  0-1-3d-3d-3d 65-1-2add-338 5be-1-20-3099 0-1-20-309a 2-1-3088-308a 5f-1-30b3-30c8
  100-1-28-1100-29 0-1-28-1102-29 0-1-28-1103-29 0-1-28-1105-29 0-1-28-1106-29 0-1-28-1107-29
  0-1-28-1109-29 0-1-28-110b-29 0-1-28-110c-29 0-1-28-110e-29 0-1-28-110f-29 0-1-28-1110-29
  0-1-28-1111-29 0-1-28-1112-29 0-1-28-ac00-29 0-1-28-b098-29 0-1-28-b2e4-29 0-1-28-b77c-29
  0-1-28-b9c8-29 0-1-28-bc14-29 0-1-28-c0ac-29 0-1-28-c544-29 0-1-28-c790-29 0-1-28-cc28-29
  0-1-28-ce74-29 0-1-28-d0c0-29 0-1-28-d30c-29 0-1-28-d558-29 0-1-28-c8fc-29 0-1-28-c624-c804-29
  0-1-28-c624-d6c4-29 1-1-28-4e00-29 0-1-28-4e8c-29 0-1-28-4e09-29 0-1-28-56db-29 0-1-28-4e94-29
  0-1-28-516d-29 0-1-28-4e03-29 0-1-28-516b-29 0-1-28-4e5d-29 0-1-28-5341-29 0-1-28-6708-29
  0-1-28-706b-29 0-1-28-6c34-29 0-1-28-6728-29 0-1-28-91d1-29 0-1-28-571f-29 0-1-28-65e5-29
  0-1-28-682a-29 0-1-28-6709-29 0-1-28-793e-29 0-1-28-540d-29 0-1-28-7279-29 0-1-28-8ca1-29
  0-1-28-795d-29 0-1-28-52b4-29 0-1-28-4ee3-29 0-1-28-547c-29 0-1-28-5b66-29 0-1-28-76e3-29
  0-1-28-4f01-29 0-1-28-8cc7-29 0-1-28-5354-29 0-1-28-796d-29 0-1-28-4f11-29 0-1-28-81ea-29
  0-1-28-81f3-29 c-1-70-74-65 0-1-32-31 0-1-32-32 0-1-32-33 0-1-32-34 0-1-32-35 0-1-32-36
  0-1-32-37 0-1-32-38 0-1-32-39 0-1-33-30 0-1-33-31 0-1-33-32 0-1-33-33 0-1-33-34 0-1-33-35
  1c-1-cc38-ace0 0-1-c8fc-c758 33-1-33-36 0-1-33-37 0-1-33-38 0-1-33-39 0-1-34-30 0-1-34-31
  0-1-34-32 0-1-34-33 0-1-34-34 0-1-34-35 0-1-34-36 0-1-34-37 0-1-34-38 0-1-34-39 0-1-35-30
  0-1-31-6708 0-1-32-6708 0-1-33-6708 0-1-34-6708 0-1-35-6708 0-1-36-6708 0-1-37-6708 0-1-38-6708
  0-1-39-6708 0-1-31-30-6708 0-1-31-31-6708 0-1-31-32-6708 0-1-68-67 0-1-65-72-67 0-1-65-76
  0-1-6c-74-64 2f-1-4ee4-548c 0-1-30a2-30d1-30fc-30c8 0-1-30a2-30eb-30d5-30a1
  0-1-30a2-30f3-30da-30a2 0-1-30a2-30fc-30eb 0-1-30a4-30cb-30f3-30b0 0-1-30a4-30f3-30c1
  0-1-30a6-30a9-30f3 0-1-30a8-30b9-30af-30fc-30c9 0-1-30a8-30fc-30ab-30fc 0-1-30aa-30f3-30b9
  0-1-30aa-30fc-30e0 0-1-30ab-30a4-30ea 0-1-30ab-30e9-30c3-30c8 0-1-30ab-30ed-30ea-30fc
  0-1-30ac-30ed-30f3 0-1-30ac-30f3-30de 0-1-30ae-30ac 0-1-30ae-30cb-30fc 0-1-30ad-30e5-30ea-30fc
  0-1-30ae-30eb-30c0-30fc 0-1-30ad-30ed 0-1-30ad-30ed-30b0-30e9-30e0
  0-1-30ad-30ed-30e1-30fc-30c8-30eb 0-1-30ad-30ed-30ef-30c3-30c8 0-1-30b0-30e9-30e0
  0-1-30b0-30e9-30e0-30c8-30f3 0-1-30af-30eb-30bc-30a4-30ed 0-1-30af-30ed-30fc-30cd
  0-1-30b1-30fc-30b9 0-1-30b3-30eb-30ca 0-1-30b3-30fc-30dd 0-1-30b5-30a4-30af-30eb
  0-1-30b5-30f3-30c1-30fc-30e0 0-1-30b7-30ea-30f3-30b0 0-1-30bb-30f3-30c1 0-1-30bb-30f3-30c8
  0-1-30c0-30fc-30b9 0-1-30c7-30b7 0-1-30c9-30eb 0-1-30c8-30f3 0-1-30ca-30ce 0-1-30ce-30c3-30c8
  0-1-30cf-30a4-30c4 0-1-30d1-30fc-30bb-30f3-30c8 0-1-30d1-30fc-30c4 0-1-30d0-30fc-30ec-30eb
  0-1-30d4-30a2-30b9-30c8-30eb 0-1-30d4-30af-30eb 0-1-30d4-30b3 0-1-30d3-30eb
  0-1-30d5-30a1-30e9-30c3-30c9 0-1-30d5-30a3-30fc-30c8 0-1-30d6-30c3-30b7-30a7-30eb
  0-1-30d5-30e9-30f3 0-1-30d8-30af-30bf-30fc-30eb 0-1-30da-30bd 0-1-30da-30cb-30d2
  0-1-30d8-30eb-30c4 0-1-30da-30f3-30b9 0-1-30da-30fc-30b8 0-1-30d9-30fc-30bf
  0-1-30dd-30a4-30f3-30c8 0-1-30dc-30eb-30c8 0-1-30db-30f3 0-1-30dd-30f3-30c9 0-1-30db-30fc-30eb
  0-1-30db-30fc-30f3 0-1-30de-30a4-30af-30ed 0-1-30de-30a4-30eb 0-1-30de-30c3-30cf
  0-1-30de-30eb-30af 0-1-30de-30f3-30b7-30e7-30f3 0-1-30df-30af-30ed-30f3 0-1-30df-30ea
  0-1-30df-30ea-30d0-30fc-30eb 0-1-30e1-30ac 0-1-30e1-30ac-30c8-30f3 0-1-30e1-30fc-30c8-30eb
  0-1-30e4-30fc-30c9 0-1-30e4-30fc-30eb 0-1-30e6-30a2-30f3 0-1-30ea-30c3-30c8-30eb 0-1-30ea-30e9
  0-1-30eb-30d4-30fc 0-1-30eb-30fc-30d6-30eb 0-1-30ec-30e0 0-1-30ec-30f3-30c8-30b2-30f3
  0-1-30ef-30c3-30c8 0-1-30-70b9 0-1-31-70b9 0-1-32-70b9 0-1-33-70b9 0-1-34-70b9 0-1-35-70b9
  0-1-36-70b9 0-1-37-70b9 0-1-38-70b9 0-1-39-70b9 0-1-31-30-70b9 0-1-31-31-70b9 0-1-31-32-70b9
  0-1-31-33-70b9 0-1-31-34-70b9 0-1-31-35-70b9 0-1-31-36-70b9 0-1-31-37-70b9 0-1-31-38-70b9
  0-1-31-39-70b9 0-1-32-30-70b9 0-1-32-31-70b9 0-1-32-32-70b9 0-1-32-33-70b9 0-1-32-34-70b9
  0-1-68-70-61 0-1-64-61 0-1-61-75 0-1-62-61-72 0-1-6f-76 0-1-70-63 0-1-64-6d 0-1-64-6d-32
  0-1-64-6d-33 0-1-69-75 0-1-5e73-6210 0-1-662d-548c 0-1-5927-6b63 0-1-660e-6cbb
  0-1-682a-5f0f-4f1a-793e 0-1-70-61 0-1-6e-61 0-1-3bc-61 0-1-6d-61 0-1-6b-61 0-1-6b-62 0-1-6d-62
  0-1-67-62 0-1-63-61-6c 0-1-6b-63-61-6c 0-1-70-66 0-1-6e-66 0-1-3bc-66 0-1-3bc-67 0-1-6d-67
  0-1-6b-67 0-1-68-7a 0-1-6b-68-7a 0-1-6d-68-7a 0-1-67-68-7a 0-1-74-68-7a 0-1-3bc-6c 0-1-6d-6c
  0-1-64-6c 0-1-6b-6c 0-1-66-6d 0-1-6e-6d 0-1-3bc-6d 0-1-6d-6d 0-1-63-6d 0-1-6b-6d 0-1-6d-6d-32
  0-1-63-6d-32 0-1-6d-32 0-1-6b-6d-32 0-1-6d-6d-33 0-1-63-6d-33 0-1-6d-33 0-1-6b-6d-33
  0-1-6d-2215-73 0-1-6d-2215-73-32 0-1-70-61 0-1-6b-70-61 0-1-6d-70-61 0-1-67-70-61 0-1-72-61-64
  0-1-72-61-64-2215-73 0-1-72-61-64-2215-73-32 0-1-70-73 0-1-6e-73 0-1-3bc-73 0-1-6d-73 0-1-70-76
  0-1-6e-76 0-1-3bc-76 0-1-6d-76 0-1-6b-76 0-1-6d-76 0-1-70-77 0-1-6e-77 0-1-3bc-77 0-1-6d-77
  0-1-6b-77 0-1-6d-77 0-1-6b-3c9 0-1-6d-3c9 1-1-62-71 0-1-63-63 0-1-63-64 0-1-63-2215-6b-67
  1-1-64-62 0-1-67-79 0-1-68-61 0-1-68-70 0-1-69-6e 0-1-6b-6b 0-1-6b-6d 0-1-6b-74 0-1-6c-6d
  0-1-6c-6e 0-1-6c-6f-67 0-1-6c-78 0-1-6d-62 0-1-6d-69-6c 0-1-6d-6f-6c 0-1-70-68 1-1-70-70-6d
  0-1-70-72 0-1-73-72 0-1-73-76 0-1-77-62 0-1-76-2215-6d 0-1-61-2215-6d 0-1-31-65e5 0-1-32-65e5
  0-1-33-65e5 0-1-34-65e5 0-1-35-65e5 0-1-36-65e5 0-1-37-65e5 0-1-38-65e5 0-1-39-65e5
  0-1-31-30-65e5 0-1-31-31-65e5 0-1-31-32-65e5 0-1-31-33-65e5 0-1-31-34-65e5 0-1-31-35-65e5
  0-1-31-36-65e5 0-1-31-37-65e5 0-1-31-38-65e5 0-1-31-39-65e5 0-1-32-30-65e5 0-1-32-31-65e5
  0-1-32-32-65e5 0-1-32-33-65e5 0-1-32-34-65e5 0-1-32-35-65e5 0-1-32-36-65e5 0-1-32-37-65e5
  0-1-32-38-65e5 0-1-32-39-65e5 0-1-33-30-65e5 0-1-33-31-65e5 0-1-67-61-6c c700-1-66-66 0-1-66-69
  0-1-66-6c 0-1-66-66-69 0-1-66-66-6c 0-1-73-74 0-1-73-74 c-1-574-576 0-1-574-565 0-1-574-56b
  0-1-57e-576 0-1-574-56d 5-1-5d9-5b4 1-1-5f2-5b7 a-1-5e9-5c1 0-1-5e9-5c2 0-1-5e9-5bc-5c1
  0-1-5e9-5bc-5c2 0-1-5d0-5b7 0-1-5d0-5b8 0-1-5d0-5bc 0-1-5d1-5bc 0-1-5d2-5bc 0-1-5d3-5bc
  0-1-5d4-5bc 0-1-5d5-5bc 0-1-5d6-5bc 1-1-5d8-5bc 0-1-5d9-5bc 0-1-5da-5bc 0-1-5db-5bc 0-1-5dc-5bc
  1-1-5de-5bc 1-1-5e0-5bc 0-1-5e1-5bc 1-1-5e3-5bc 0-1-5e4-5bc 1-1-5e6-5bc 0-1-5e7-5bc 0-1-5e8-5bc
  0-1-5e9-5bc 0-1-5ea-5bc 0-1-5d5-5b9 0-1-5d1-5bf 0-1-5db-5bf 0-1-5e4-5bf 0-1-5d0-5dc
  8d-1-6c7-674 c-1-626-627 0-1-626-627 0-1-626-6d5 0-1-626-6d5 0-1-626-648 0-1-626-648
  0-1-626-6c7 0-1-626-6c7 0-1-626-6c6 0-1-626-6c6 0-1-626-6c8 0-1-626-6c8 0-1-626-6d0 0-1-626-6d0
  0-1-626-6d0 0-1-626-649 0-1-626-649 0-1-626-649 4-1-626-62c 0-1-626-62d 0-1-626-645 0-1-626-649
  0-1-626-64a 0-1-628-62c 0-1-628-62d 0-1-628-62e 0-1-628-645 0-1-628-649 0-1-628-64a 0-1-62a-62c
  0-1-62a-62d 0-1-62a-62e 0-1-62a-645 0-1-62a-649 0-1-62a-64a 0-1-62b-62c 0-1-62b-645 0-1-62b-649
  0-1-62b-64a 0-1-62c-62d 0-1-62c-645 0-1-62d-62c 0-1-62d-645 0-1-62e-62c 0-1-62e-62d 0-1-62e-645
  0-1-633-62c 0-1-633-62d 0-1-633-62e 0-1-633-645 0-1-635-62d 0-1-635-645 0-1-636-62c 0-1-636-62d
  0-1-636-62e 0-1-636-645 0-1-637-62d 0-1-637-645 0-1-638-645 0-1-639-62c 0-1-639-645 0-1-63a-62c
  0-1-63a-645 0-1-641-62c 0-1-641-62d 0-1-641-62e 0-1-641-645 0-1-641-649 0-1-641-64a 0-1-642-62d
  0-1-642-645 0-1-642-649 0-1-642-64a 0-1-643-627 0-1-643-62c 0-1-643-62d 0-1-643-62e 0-1-643-644
  0-1-643-645 0-1-643-649 0-1-643-64a 0-1-644-62c 0-1-644-62d 0-1-644-62e 0-1-644-645 0-1-644-649
  0-1-644-64a 0-1-645-62c 0-1-645-62d 0-1-645-62e 0-1-645-645 0-1-645-649 0-1-645-64a 0-1-646-62c
  0-1-646-62d 0-1-646-62e 0-1-646-645 0-1-646-649 0-1-646-64a 0-1-647-62c 0-1-647-645 0-1-647-649
  0-1-647-64a 0-1-64a-62c 0-1-64a-62d 0-1-64a-62e 0-1-64a-645 0-1-64a-649 0-1-64a-64a 0-1-630-670
  0-1-631-670 0-1-649-670 0-1-20-64c-651 0-1-20-64d-651 0-1-20-64e-651 0-1-20-64f-651
  0-1-20-650-651 0-1-20-651-670 0-1-626-631 0-1-626-632 0-1-626-645 0-1-626-646 0-1-626-649
  0-1-626-64a 0-1-628-631 0-1-628-632 0-1-628-645 0-1-628-646 0-1-628-649 0-1-628-64a 0-1-62a-631
  0-1-62a-632 0-1-62a-645 0-1-62a-646 0-1-62a-649 0-1-62a-64a 0-1-62b-631 0-1-62b-632 0-1-62b-645
  0-1-62b-646 0-1-62b-649 0-1-62b-64a 0-1-641-649 0-1-641-64a 0-1-642-649 0-1-642-64a 0-1-643-627
  0-1-643-644 0-1-643-645 0-1-643-649 0-1-643-64a 0-1-644-645 0-1-644-649 0-1-644-64a 0-1-645-627
  0-1-645-645 0-1-646-631 0-1-646-632 0-1-646-645 0-1-646-646 0-1-646-649 0-1-646-64a 0-1-649-670
  0-1-64a-631 0-1-64a-632 0-1-64a-645 0-1-64a-646 0-1-64a-649 0-1-64a-64a 0-1-626-62c 0-1-626-62d
  0-1-626-62e 0-1-626-645 0-1-626-647 0-1-628-62c 0-1-628-62d 0-1-628-62e 0-1-628-645 0-1-628-647
  0-1-62a-62c 0-1-62a-62d 0-1-62a-62e 0-1-62a-645 0-1-62a-647 0-1-62b-645 0-1-62c-62d 0-1-62c-645
  0-1-62d-62c 0-1-62d-645 0-1-62e-62c 0-1-62e-645 0-1-633-62c 0-1-633-62d 0-1-633-62e 0-1-633-645
  0-1-635-62d 0-1-635-62e 0-1-635-645 0-1-636-62c 0-1-636-62d 0-1-636-62e 0-1-636-645 0-1-637-62d
  0-1-638-645 0-1-639-62c 0-1-639-645 0-1-63a-62c 0-1-63a-645 0-1-641-62c 0-1-641-62d 0-1-641-62e
  0-1-641-645 0-1-642-62d 0-1-642-645 0-1-643-62c 0-1-643-62d 0-1-643-62e 0-1-643-644 0-1-643-645
  0-1-644-62c 0-1-644-62d 0-1-644-62e 0-1-644-645 0-1-644-647 0-1-645-62c 0-1-645-62d 0-1-645-62e
  0-1-645-645 0-1-646-62c 0-1-646-62d 0-1-646-62e 0-1-646-645 0-1-646-647 0-1-647-62c 0-1-647-645
  0-1-647-670 0-1-64a-62c 0-1-64a-62d 0-1-64a-62e 0-1-64a-645 0-1-64a-647 0-1-626-645 0-1-626-647
  0-1-628-645 0-1-628-647 0-1-62a-645 0-1-62a-647 0-1-62b-645 0-1-62b-647 0-1-633-645 0-1-633-647
  0-1-634-645 0-1-634-647 0-1-643-644 0-1-643-645 0-1-644-645 0-1-646-645 0-1-646-647 0-1-64a-645
  0-1-64a-647 0-1-640-64e-651 0-1-640-64f-651 0-1-640-650-651 0-1-637-649 0-1-637-64a 0-1-639-649
  0-1-639-64a 0-1-63a-649 0-1-63a-64a 0-1-633-649 0-1-633-64a 0-1-634-649 0-1-634-64a 0-1-62d-649
  0-1-62d-64a 0-1-62c-649 0-1-62c-64a 0-1-62e-649 0-1-62e-64a 0-1-635-649 0-1-635-64a 0-1-636-649
  0-1-636-64a 0-1-634-62c 0-1-634-62d 0-1-634-62e 0-1-634-645 0-1-634-631 0-1-633-631 0-1-635-631
  0-1-636-631 0-1-637-649 0-1-637-64a 0-1-639-649 0-1-639-64a 0-1-63a-649 0-1-63a-64a 0-1-633-649
  0-1-633-64a 0-1-634-649 0-1-634-64a 0-1-62d-649 0-1-62d-64a 0-1-62c-649 0-1-62c-64a 0-1-62e-649
  0-1-62e-64a 0-1-635-649 0-1-635-64a 0-1-636-649 0-1-636-64a 0-1-634-62c 0-1-634-62d 0-1-634-62e
  0-1-634-645 0-1-634-631 0-1-633-631 0-1-635-631 0-1-636-631 0-1-634-62c 0-1-634-62d 0-1-634-62e
  0-1-634-645 0-1-633-647 0-1-634-647 0-1-637-645 0-1-633-62c 0-1-633-62d 0-1-633-62e 0-1-634-62c
  0-1-634-62d 0-1-634-62e 0-1-637-645 0-1-638-645 0-1-627-64b 0-1-627-64b 12-1-62a-62c-645
  0-1-62a-62d-62c 0-1-62a-62d-62c 0-1-62a-62d-645 0-1-62a-62e-645 0-1-62a-645-62c 0-1-62a-645-62d
  0-1-62a-645-62e 0-1-62c-645-62d 0-1-62c-645-62d 0-1-62d-645-64a 0-1-62d-645-649 0-1-633-62d-62c
  0-1-633-62c-62d 0-1-633-62c-649 0-1-633-645-62d 0-1-633-645-62d 0-1-633-645-62c 0-1-633-645-645
  0-1-633-645-645 0-1-635-62d-62d 0-1-635-62d-62d 0-1-635-645-645 0-1-634-62d-645 0-1-634-62d-645
  0-1-634-62c-64a 0-1-634-645-62e 0-1-634-645-62e 0-1-634-645-645 0-1-634-645-645 0-1-636-62d-649
  0-1-636-62e-645 0-1-636-62e-645 0-1-637-645-62d 0-1-637-645-62d 0-1-637-645-645 0-1-637-645-64a
  0-1-639-62c-645 0-1-639-645-645 0-1-639-645-645 0-1-639-645-649 0-1-63a-645-645 0-1-63a-645-64a
  0-1-63a-645-649 0-1-641-62e-645 0-1-641-62e-645 0-1-642-645-62d 0-1-642-645-645 0-1-644-62d-645
  0-1-644-62d-64a 0-1-644-62d-649 0-1-644-62c-62c 0-1-644-62c-62c 0-1-644-62e-645 0-1-644-62e-645
  0-1-644-645-62d 0-1-644-645-62d 0-1-645-62d-62c 0-1-645-62d-645 0-1-645-62d-64a 0-1-645-62c-62d
  0-1-645-62c-645 0-1-645-62e-62c 0-1-645-62e-645 2-1-645-62c-62e 0-1-647-645-62c 0-1-647-645-645
  0-1-646-62d-645 0-1-646-62d-649 0-1-646-62c-645 0-1-646-62c-645 0-1-646-62c-649 0-1-646-645-64a
  0-1-646-645-649 0-1-64a-645-645 0-1-64a-645-645 0-1-628-62e-64a 0-1-62a-62c-64a 0-1-62a-62c-649
  0-1-62a-62e-64a 0-1-62a-62e-649 0-1-62a-645-64a 0-1-62a-645-649 0-1-62c-645-64a 0-1-62c-62d-649
  0-1-62c-645-649 0-1-633-62e-649 0-1-635-62d-64a 0-1-634-62d-64a 0-1-636-62d-64a 0-1-644-62c-64a
  0-1-644-645-64a 0-1-64a-62d-64a 0-1-64a-62c-64a 0-1-64a-645-64a 0-1-645-645-64a 0-1-642-645-64a
  0-1-646-62d-64a 0-1-642-645-62d 0-1-644-62d-645 0-1-639-645-64a 0-1-643-645-64a 0-1-646-62c-62d
  0-1-645-62e-64a 0-1-644-62c-645 0-1-643-645-645 0-1-644-62c-645 0-1-646-62c-62d 0-1-62c-62d-64a
  0-1-62d-62c-64a 0-1-645-62c-64a 0-1-641-645-64a 0-1-628-62d-64a 0-1-643-645-645 0-1-639-62c-645
  0-1-635-645-645 0-1-633-62e-64a 0-1-646-62c-64a 28-1-635-644-6d2 0-1-642-644-6d2
  0-1-627-644-644-647 0-1-627-643-628-631 0-1-645-62d-645-62f 0-1-635-644-639-645
  0-1-631-633-648-644 0-1-639-644-64a-647 0-1-648-633-644-645 0-1-635-644-649
  0-1-635-644-649-20-627-644-644-647-20-639-644-64a-647-20-648-633-644-645
  0-1-62c-644-20-62c-644-627-644-647 0-1-631-6cc-627-644 4c-1-20-305 0-1-20-305 0-1-20-305
  0-1-20-305 23-1-20-64b 0-1-640-64b 0-1-20-64c 1-1-20-64d 1-1-20-64e 0-1-640-64e 0-1-20-64f
  0-1-640-64f 0-1-20-650 0-1-640-650 0-1-20-651 0-1-640-651 0-1-20-652 0-1-640-652 75-1-644-622
  0-1-644-622 0-1-644-623 0-1-644-623 0-1-644-625 0-1-644-625 0-1-644-627 0-1-644-627 e6-1-20-304
  d17a-1-1d157-1d165 0-1-1d158-1d165 0-1-1d158-1d165-1d16e 0-1-1d158-1d165-1d16f
  0-1-1d158-1d165-1d170 0-1-1d158-1d165-1d171 0-1-1d158-1d165-1d172 56-1-1d1b9-1d165
  0-1-1d1ba-1d165 0-1-1d1b9-1d165-1d16e 0-1-1d1ba-1d165-1d16e 0-1-1d1b9-1d165-1d16f
  0-1-1d1ba-1d165-1d16f 1f40-1-30-2c 0-1-31-2c 0-1-32-2c 0-1-33-2c 0-1-34-2c 0-1-35-2c 0-1-36-2c
  0-1-37-2c 0-1-38-2c 0-1-39-2c 5-1-28-61-29 0-1-28-62-29 0-1-28-63-29 0-1-28-64-29 0-1-28-65-29
  0-1-28-66-29 0-1-28-67-29 0-1-28-68-29 0-1-28-69-29 0-1-28-6a-29 0-1-28-6b-29 0-1-28-6c-29
  0-1-28-6d-29 0-1-28-6e-29 0-1-28-6f-29 0-1-28-70-29 0-1-28-71-29 0-1-28-72-29 0-1-28-73-29
  0-1-28-74-29 0-1-28-75-29 0-1-28-76-29 0-1-28-77-29 0-1-28-78-29 0-1-28-79-29 0-1-28-7a-29
  0-1-3014-73-3015 2-1-63-64 0-1-77-7a 1b-1-68-76 0-1-6d-76 0-1-73-64 0-1-73-73 0-1-70-70-76
  0-1-77-63 1a-1-6d-63 0-1-6d-64 0-1-6d-72 23-1-64-6a 6f-1-307b-304b 0-1-30b3-30b3
  3e-1-3014-672c-3015 0-1-3014-4e09-3015 0-1-3014-4e8c-3015 0-1-3014-5b89-3015 0-1-3014-70b9-3015
  0-1-3014-6253-3015 0-1-3014-76d7-3015 0-1-3014-52dd-3015 0-1-3014-6557-3015"

/-- What a character beyond ASCII that counts, and can stand in a name, stands for. -/
def simplified (c : Char) : List Char :=
  match shiftedTable.find? c.toNat with
  | some (offset, [first]) => [Char.ofNat (first + offset)]
  | _ =>
    match alternatingTable.find? c.toNat with
    | some (offset, _) => [if offset % 2 = 0 then Char.ofNat (c.toNat + 1) else c]
    | none =>
      match spelledTable.find? c.toNat with
      | some (_, numbers) => numbers.map Char.ofNat
      | none => [c]

/-- What a character stands for, unless it can stand in no name. -/
def standsFor? (c : Char) : Option (List Char) :=
  if c.toNat < 0x80 then some [c.toLower]
  else if ignoredTable.contains c then some []
  else if excludedTable.contains c then none
  else some (simplified c)

end Domain

end PageCensus
