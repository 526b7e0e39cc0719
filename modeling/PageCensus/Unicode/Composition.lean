import PageCensus.Unicode.CodeTable

/-!
# Composed characters

A letter with marks can be written as one character or as several.  A text is brought into one form
in three steps: every character is taken apart as far as possible, marks behind a letter are ordered
by their combining class, and then each letter is composed with the marks that it can reach.  A mark
is out of reach behind another one of the same or a higher class that stayed.

Syllables of Hangul are taken apart and composed by arithmetic, all others by a table.  Characters
that never come out of a composition are not in it.

* `combiningClass` — the class of a character; zero for letters.
* `Composition.parts?`, `Composition.whole?` — one step apart and one step together.
* `Composition.compose` — the composed form of a text.
-/

set_option autoImplicit false

namespace PageCensus

/-- The combining classes that are not zero. -/
def combiningClassTable : CodeTable := CodeTable.ofText
  "300-15-e6 0-1-e8 0-4-dc 0-1-e8 0-1-d8 0-5-dc 0-2-ca 0-4-dc 0-2-ca 0-b-dc 0-5-1 0-4-dc 0-8-e6
  0-1-f0 0-1-e6 0-3-dc 0-3-e6 0-2-dc 1-3-e6 0-4-dc 0-1-e6 0-1-e8 0-2-dc 0-1-e6 0-1-e9 0-2-ea
  0-1-e9 0-2-ea 0-1-e9 0-d-e6 113-5-e6 109-1-dc 0-4-e6 0-1-dc 0-3-e6 0-1-de 0-1-dc 0-6-e6 0-6-dc
  0-2-e6 0-1-dc 0-2-e6 0-1-de 0-1-e4 0-1-e6 0-1-a 0-1-b 0-1-c 0-1-d 0-1-e 0-1-f 0-1-10 0-1-11
  0-1-12 0-2-13 0-1-14 0-1-15 0-1-16 1-1-17 1-1-18 0-1-19 1-1-e6 0-1-dc 1-1-12 48-8-e6 0-1-1e
  0-1-1f 0-1-20 30-1-1b 0-1-1c 0-1-1d 0-1-1e 0-1-1f 0-1-20 0-1-21 0-1-22 0-2-e6 0-2-dc 0-5-e6
  0-1-dc 0-2-e6 0-1-dc 10-1-23 65-7-e6 2-4-e6 0-1-dc 0-1-e6 2-2-e6 1-1-dc 0-2-e6 0-1-dc 23-1-24
  1e-1-e6 0-1-dc 0-2-e6 0-1-dc 0-2-e6 0-3-dc 0-1-e6 0-2-dc 0-1-e6 0-1-dc 0-3-e6 0-1-dc 0-1-e6
  0-1-dc 0-1-e6 0-1-dc 0-1-e6 0-1-dc 0-2-e6 a0-7-e6 0-1-dc 0-1-e6 9-1-dc 18-4-e6 1-9-e6 1-3-e6
  1-5-e6 2b-3-dc 3b-2-e6 0-3-dc 0-4-e6 2a-5-e6 0-5-dc 0-e-e6 1-1-dc 0-2-e6 0-1-dc 0-2-e6 0-1-dc
  0-3-e6 0-3-dc 0-1-1b 0-1-1c 0-1-1d 0-3-e6 0-1-dc 0-2-e6 0-2-dc 0-5-e6 3c-1-7 10-1-9 3-1-e6
  0-1-dc 0-2-e6 67-1-7 10-1-9 30-1-e6 3d-1-7 10-1-9 6e-1-7 10-1-9 6e-1-7 10-1-9 7f-1-9 6e-1-7
  10-1-9 7-1-54 0-1-5b 65-1-7 10-1-9 6d-2-9 10-1-9 7c-1-9 6d-2-67 0-1-9 d-4-6b 6c-2-76 0-1-9
  d-4-7a 4c-2-dc 1b-1-dc 1-1-dc 1-1-d8 37-1-81 0-1-82 1-1-84 5-4-82 2-1-82 1-2-e6 0-1-9 1-2-e6
  3e-1-dc 70-1-7 1-2-9 52-1-dc 2cf-3-e6 3b4-2-9 1e-1-9 9d-1-9 a-1-e6 cb-1-e4 8f-1-de 0-1-e6
  0-1-dc db-1-e6 0-1-dc 47-1-9 14-8-e6 2-1-dc 30-5-e6 0-6-dc 0-2-e6 0-1-dc 1-2-dc 0-2-e6 0-2-dc
  0-5-e6 0-1-dc 0-12-e6 0-1-dc 2-6-e6 0-1-dc 0-4-e6 0-1-ea 48-1-7 f-1-9 26-1-e6 0-1-dc 0-7-e6
  36-2-9 3a-1-7 b-2-9 43-1-7 98-3-e6 1-1-1 0-5-dc 0-2-e6 0-4-dc 0-1-e6 1-7-1 4-1-dc 6-1-e6 3-2-e6
  c6-2-e6 0-1-dc 0-7-e6 0-1-dc 0-2-e6 0-1-ea 0-1-d6 0-1-dc 0-1-ca 0-25-e6 0-1-e8 0-2-e4 0-1-dc
  0-1-da 0-1-e6 0-1-e9 0-1-dc 0-1-e6 0-1-dc 2d0-2-e6 0-2-1 0-4-e6 0-3-1 0-2-e6 4-1-e6 3-2-1
  0-1-e6 0-1-dc 0-1-e6 0-2-1 0-4-dc 0-1-e6 bfe-3-e6 8d-1-9 60-20-e6 22a-1-da 0-1-e4 0-1-e8 0-1-de
  0-2-e0 69-2-8 75d4-1-e6 4-a-e6 20-2-e6 50-2-e6 114-1-9 25-1-9 97-1-9 1b-12-e6 39-3-dc 25-1-9
  5f-1-7 c-1-9 ef-1-e6 1-2-e6 0-1-dc 2-2-e6 5-2-e6 1-1-e6 34-1-9 f6-1-9 4f30-1-1a 301-7-e6 0-7-dc
  0-2-e6 3cd-1-dc e2-1-dc 95-5-e6 692-1-dc 1-1-e6 28-1-e6 0-1-1 0-1-dc 4-1-9 a5-1-e6 0-1-dc
  23d-4-e6 41-5-e6 13d-2-e6 4d-2-dc 1-3-dc 46-2-dc 0-3-e6 0-1-dc 0-1-e6 0-4-dc 31-1-e6 0-1-dc
  0-1-e6 0-1-dc c0-1-9 29-1-9 e-1-9 39-1-9 0-1-7 45-3-e6 30-2-9 3e-1-7 4c-1-9 9-1-7 6a-1-9 0-1-7
  b2-1-7 0-1-9 50-2-7 10-1-9 18-7-e6 3-5-e6 59-3-9 71-1-9 3-1-7 17-1-e6 63-1-9 0-1-7 fb-1-9 0-1-7
  7e-1-9 76-1-9 0-1-7 73-1-9 10d-1-9 0-1-7 102-2-9 4-1-7 9c-1-9 53-1-9 12-1-9 51-1-9 1a5-1-9
  102-1-7 1-2-9 51-1-9 1a9-2-9 41ec-1-9 9c0-5-1 3b-7-e6 4b9-2-6 4cac-1-1 14c6-2-d8 0-3-1 3-1-e2
  0-5-d8 8-8-dc 2-5-e6 0-2-dc 1e-4-e6 94-3-e6 dbb-7-e6 1-11-e6 2-7-e6 1-2-e6 1-5-e6 64-1-e6
  a0-7-e6 177-1-e6 3d-4-e6 1fc-2-e8 0-1-dc 0-1-e6 fe-1-e6 0-1-dc f3-1-e6 2-1-e6 7-2-e6 5-1-e6
  1da-7-dc 6d-6-e6 0-1-7"

/-- The combining class of a character. -/
def combiningClass (c : Char) : Nat := (combiningClassTable.value? c).getD 0

namespace Composition

/-! ## One step -/

/-- The composed characters, each with the two that it is composed of. -/
def partsTable : CodeTable := CodeTable.ofText
  "c0-1-41-300 0-1-41-301 0-1-41-302 0-1-41-303 0-1-41-308 0-1-41-30a 1-1-43-327 0-1-45-300
  0-1-45-301 0-1-45-302 0-1-45-308 0-1-49-300 0-1-49-301 0-1-49-302 0-1-49-308 1-1-4e-303
  0-1-4f-300 0-1-4f-301 0-1-4f-302 0-1-4f-303 0-1-4f-308 2-1-55-300 0-1-55-301 0-1-55-302
  0-1-55-308 0-1-59-301 2-1-61-300 0-1-61-301 0-1-61-302 0-1-61-303 0-1-61-308 0-1-61-30a
  1-1-63-327 0-1-65-300 0-1-65-301 0-1-65-302 0-1-65-308 0-1-69-300 0-1-69-301 0-1-69-302
  0-1-69-308 1-1-6e-303 0-1-6f-300 0-1-6f-301 0-1-6f-302 0-1-6f-303 0-1-6f-308 2-1-75-300
  0-1-75-301 0-1-75-302 0-1-75-308 0-1-79-301 1-1-79-308 0-1-41-304 0-1-61-304 0-1-41-306
  0-1-61-306 0-1-41-328 0-1-61-328 0-1-43-301 0-1-63-301 0-1-43-302 0-1-63-302 0-1-43-307
  0-1-63-307 0-1-43-30c 0-1-63-30c 0-1-44-30c 0-1-64-30c 2-1-45-304 0-1-65-304 0-1-45-306
  0-1-65-306 0-1-45-307 0-1-65-307 0-1-45-328 0-1-65-328 0-1-45-30c 0-1-65-30c 0-1-47-302
  0-1-67-302 0-1-47-306 0-1-67-306 0-1-47-307 0-1-67-307 0-1-47-327 0-1-67-327 0-1-48-302
  0-1-68-302 2-1-49-303 0-1-69-303 0-1-49-304 0-1-69-304 0-1-49-306 0-1-69-306 0-1-49-328
  0-1-69-328 0-1-49-307 3-1-4a-302 0-1-6a-302 0-1-4b-327 0-1-6b-327 1-1-4c-301 0-1-6c-301
  0-1-4c-327 0-1-6c-327 0-1-4c-30c 0-1-6c-30c 4-1-4e-301 0-1-6e-301 0-1-4e-327 0-1-6e-327
  0-1-4e-30c 0-1-6e-30c 3-1-4f-304 0-1-6f-304 0-1-4f-306 0-1-6f-306 0-1-4f-30b 0-1-6f-30b
  2-1-52-301 0-1-72-301 0-1-52-327 0-1-72-327 0-1-52-30c 0-1-72-30c 0-1-53-301 0-1-73-301
  0-1-53-302 0-1-73-302 0-1-53-327 0-1-73-327 0-1-53-30c 0-1-73-30c 0-1-54-327 0-1-74-327
  0-1-54-30c 0-1-74-30c 2-1-55-303 0-1-75-303 0-1-55-304 0-1-75-304 0-1-55-306 0-1-75-306
  0-1-55-30a 0-1-75-30a 0-1-55-30b 0-1-75-30b 0-1-55-328 0-1-75-328 0-1-57-302 0-1-77-302
  0-1-59-302 0-1-79-302 0-1-59-308 0-1-5a-301 0-1-7a-301 0-1-5a-307 0-1-7a-307 0-1-5a-30c
  0-1-7a-30c 21-1-4f-31b 0-1-6f-31b d-1-55-31b 0-1-75-31b 1c-1-41-30c 0-1-61-30c 0-1-49-30c
  0-1-69-30c 0-1-4f-30c 0-1-6f-30c 0-1-55-30c 0-1-75-30c 0-1-dc-304 0-1-fc-304 0-1-dc-301
  0-1-fc-301 0-1-dc-30c 0-1-fc-30c 0-1-dc-300 0-1-fc-300 1-1-c4-304 0-1-e4-304 0-1-226-304
  0-1-227-304 0-1-c6-304 0-1-e6-304 2-1-47-30c 0-1-67-30c 0-1-4b-30c 0-1-6b-30c 0-1-4f-328
  0-1-6f-328 0-1-1ea-304 0-1-1eb-304 0-1-1b7-30c 0-1-292-30c 0-1-6a-30c 3-1-47-301 0-1-67-301
  2-1-4e-300 0-1-6e-300 0-1-c5-301 0-1-e5-301 0-1-c6-301 0-1-e6-301 0-1-d8-301 0-1-f8-301
  0-1-41-30f 0-1-61-30f 0-1-41-311 0-1-61-311 0-1-45-30f 0-1-65-30f 0-1-45-311 0-1-65-311
  0-1-49-30f 0-1-69-30f 0-1-49-311 0-1-69-311 0-1-4f-30f 0-1-6f-30f 0-1-4f-311 0-1-6f-311
  0-1-52-30f 0-1-72-30f 0-1-52-311 0-1-72-311 0-1-55-30f 0-1-75-30f 0-1-55-311 0-1-75-311
  0-1-53-326 0-1-73-326 0-1-54-326 0-1-74-326 2-1-48-30c 0-1-68-30c 6-1-41-307 0-1-61-307
  0-1-45-327 0-1-65-327 0-1-d6-304 0-1-f6-304 0-1-d5-304 0-1-f5-304 0-1-4f-307 0-1-6f-307
  0-1-22e-304 0-1-22f-304 0-1-59-304 0-1-79-304 151-1-a8-301 0-1-391-301 1-1-395-301 0-1-397-301
  0-1-399-301 1-1-39f-301 1-1-3a5-301 0-1-3a9-301 0-1-3ca-301 19-1-399-308 0-1-3a5-308
  0-1-3b1-301 0-1-3b5-301 0-1-3b7-301 0-1-3b9-301 0-1-3cb-301 19-1-3b9-308 0-1-3c5-308
  0-1-3bf-301 0-1-3c5-301 0-1-3c9-301 4-1-3d2-301 0-1-3d2-308 2b-1-415-300 0-1-415-308
  1-1-413-301 3-1-406-308 4-1-41a-301 0-1-418-300 0-1-423-306 a-1-418-306 1f-1-438-306
  16-1-435-300 0-1-435-308 1-1-433-301 3-1-456-308 4-1-43a-301 0-1-438-300 0-1-443-306
  17-1-474-30f 0-1-475-30f 49-1-416-306 0-1-436-306 d-1-410-306 0-1-430-306 0-1-410-308
  0-1-430-308 2-1-415-306 0-1-435-306 2-1-4d8-308 0-1-4d9-308 0-1-416-308 0-1-436-308 0-1-417-308
  0-1-437-308 2-1-418-304 0-1-438-304 0-1-418-308 0-1-438-308 0-1-41e-308 0-1-43e-308 2-1-4e8-308
  0-1-4e9-308 0-1-42d-308 0-1-44d-308 0-1-423-304 0-1-443-304 0-1-423-308 0-1-443-308 0-1-423-30b
  0-1-443-30b 0-1-427-308 0-1-447-308 2-1-42b-308 0-1-44b-308 128-1-627-653 0-1-627-654
  0-1-648-654 0-1-627-655 0-1-64a-654 99-1-6d5-654 1-1-6c1-654 10-1-6d2-654 255-1-928-93c
  7-1-930-93c 2-1-933-93c 96-1-9c7-9be 0-1-9c7-9d7 17b-1-b47-b56 2-1-b47-b3e 0-1-b47-b57
  47-1-b92-bd7 35-1-bc6-bbe 0-1-bc7-bbe 0-1-bc6-bd7 7b-1-c46-c56 77-1-cbf-cd5 6-1-cc6-cd5
  0-1-cc6-cd6 1-1-cc6-cc2 0-1-cca-cd5 7e-1-d46-d3e 0-1-d47-d3e 0-1-d46-d57 8d-1-dd9-dca
  1-1-dd9-dcf 0-1-ddc-dca 0-1-dd9-ddf 247-1-1025-102e adf-1-1b05-1b35 1-1-1b07-1b35 1-1-1b09-1b35
  1-1-1b0b-1b35 1-1-1b0d-1b35 3-1-1b11-1b35 28-1-1b3a-1b35 1-1-1b3c-1b35 2-1-1b3e-1b35
  0-1-1b3f-1b35 1-1-1b42-1b35 2bc-1-41-325 0-1-61-325 0-1-42-307 0-1-62-307 0-1-42-323 0-1-62-323
  0-1-42-331 0-1-62-331 0-1-c7-301 0-1-e7-301 0-1-44-307 0-1-64-307 0-1-44-323 0-1-64-323
  0-1-44-331 0-1-64-331 0-1-44-327 0-1-64-327 0-1-44-32d 0-1-64-32d 0-1-112-300 0-1-113-300
  0-1-112-301 0-1-113-301 0-1-45-32d 0-1-65-32d 0-1-45-330 0-1-65-330 0-1-228-306 0-1-229-306
  0-1-46-307 0-1-66-307 0-1-47-304 0-1-67-304 0-1-48-307 0-1-68-307 0-1-48-323 0-1-68-323
  0-1-48-308 0-1-68-308 0-1-48-327 0-1-68-327 0-1-48-32e 0-1-68-32e 0-1-49-330 0-1-69-330
  0-1-cf-301 0-1-ef-301 0-1-4b-301 0-1-6b-301 0-1-4b-323 0-1-6b-323 0-1-4b-331 0-1-6b-331
  0-1-4c-323 0-1-6c-323 0-1-1e36-304 0-1-1e37-304 0-1-4c-331 0-1-6c-331 0-1-4c-32d 0-1-6c-32d
  0-1-4d-301 0-1-6d-301 0-1-4d-307 0-1-6d-307 0-1-4d-323 0-1-6d-323 0-1-4e-307 0-1-6e-307
  0-1-4e-323 0-1-6e-323 0-1-4e-331 0-1-6e-331 0-1-4e-32d 0-1-6e-32d 0-1-d5-301 0-1-f5-301
  0-1-d5-308 0-1-f5-308 0-1-14c-300 0-1-14d-300 0-1-14c-301 0-1-14d-301 0-1-50-301 0-1-70-301
  0-1-50-307 0-1-70-307 0-1-52-307 0-1-72-307 0-1-52-323 0-1-72-323 0-1-1e5a-304 0-1-1e5b-304
  0-1-52-331 0-1-72-331 0-1-53-307 0-1-73-307 0-1-53-323 0-1-73-323 0-1-15a-307 0-1-15b-307
  0-1-160-307 0-1-161-307 0-1-1e62-307 0-1-1e63-307 0-1-54-307 0-1-74-307 0-1-54-323 0-1-74-323
  0-1-54-331 0-1-74-331 0-1-54-32d 0-1-74-32d 0-1-55-324 0-1-75-324 0-1-55-330 0-1-75-330
  0-1-55-32d 0-1-75-32d 0-1-168-301 0-1-169-301 0-1-16a-308 0-1-16b-308 0-1-56-303 0-1-76-303
  0-1-56-323 0-1-76-323 0-1-57-300 0-1-77-300 0-1-57-301 0-1-77-301 0-1-57-308 0-1-77-308
  0-1-57-307 0-1-77-307 0-1-57-323 0-1-77-323 0-1-58-307 0-1-78-307 0-1-58-308 0-1-78-308
  0-1-59-307 0-1-79-307 0-1-5a-302 0-1-7a-302 0-1-5a-323 0-1-7a-323 0-1-5a-331 0-1-7a-331
  0-1-68-331 0-1-74-308 0-1-77-30a 0-1-79-30a 1-1-17f-307 4-1-41-323 0-1-61-323 0-1-41-309
  0-1-61-309 0-1-c2-301 0-1-e2-301 0-1-c2-300 0-1-e2-300 0-1-c2-309 0-1-e2-309 0-1-c2-303
  0-1-e2-303 0-1-1ea0-302 0-1-1ea1-302 0-1-102-301 0-1-103-301 0-1-102-300 0-1-103-300
  0-1-102-309 0-1-103-309 0-1-102-303 0-1-103-303 0-1-1ea0-306 0-1-1ea1-306 0-1-45-323 0-1-65-323
  0-1-45-309 0-1-65-309 0-1-45-303 0-1-65-303 0-1-ca-301 0-1-ea-301 0-1-ca-300 0-1-ea-300
  0-1-ca-309 0-1-ea-309 0-1-ca-303 0-1-ea-303 0-1-1eb8-302 0-1-1eb9-302 0-1-49-309 0-1-69-309
  0-1-49-323 0-1-69-323 0-1-4f-323 0-1-6f-323 0-1-4f-309 0-1-6f-309 0-1-d4-301 0-1-f4-301
  0-1-d4-300 0-1-f4-300 0-1-d4-309 0-1-f4-309 0-1-d4-303 0-1-f4-303 0-1-1ecc-302 0-1-1ecd-302
  0-1-1a0-301 0-1-1a1-301 0-1-1a0-300 0-1-1a1-300 0-1-1a0-309 0-1-1a1-309 0-1-1a0-303 0-1-1a1-303
  0-1-1a0-323 0-1-1a1-323 0-1-55-323 0-1-75-323 0-1-55-309 0-1-75-309 0-1-1af-301 0-1-1b0-301
  0-1-1af-300 0-1-1b0-300 0-1-1af-309 0-1-1b0-309 0-1-1af-303 0-1-1b0-303 0-1-1af-323 0-1-1b0-323
  0-1-59-300 0-1-79-300 0-1-59-323 0-1-79-323 0-1-59-309 0-1-79-309 0-1-59-303 0-1-79-303
  6-1-3b1-313 0-1-3b1-314 0-1-1f00-300 0-1-1f01-300 0-1-1f00-301 0-1-1f01-301 0-1-1f00-342
  0-1-1f01-342 0-1-391-313 0-1-391-314 0-1-1f08-300 0-1-1f09-300 0-1-1f08-301 0-1-1f09-301
  0-1-1f08-342 0-1-1f09-342 0-1-3b5-313 0-1-3b5-314 0-1-1f10-300 0-1-1f11-300 0-1-1f10-301
  0-1-1f11-301 2-1-395-313 0-1-395-314 0-1-1f18-300 0-1-1f19-300 0-1-1f18-301 0-1-1f19-301
  2-1-3b7-313 0-1-3b7-314 0-1-1f20-300 0-1-1f21-300 0-1-1f20-301 0-1-1f21-301 0-1-1f20-342
  0-1-1f21-342 0-1-397-313 0-1-397-314 0-1-1f28-300 0-1-1f29-300 0-1-1f28-301 0-1-1f29-301
  0-1-1f28-342 0-1-1f29-342 0-1-3b9-313 0-1-3b9-314 0-1-1f30-300 0-1-1f31-300 0-1-1f30-301
  0-1-1f31-301 0-1-1f30-342 0-1-1f31-342 0-1-399-313 0-1-399-314 0-1-1f38-300 0-1-1f39-300
  0-1-1f38-301 0-1-1f39-301 0-1-1f38-342 0-1-1f39-342 0-1-3bf-313 0-1-3bf-314 0-1-1f40-300
  0-1-1f41-300 0-1-1f40-301 0-1-1f41-301 2-1-39f-313 0-1-39f-314 0-1-1f48-300 0-1-1f49-300
  0-1-1f48-301 0-1-1f49-301 2-1-3c5-313 0-1-3c5-314 0-1-1f50-300 0-1-1f51-300 0-1-1f50-301
  0-1-1f51-301 0-1-1f50-342 0-1-1f51-342 1-1-3a5-314 1-1-1f59-300 1-1-1f59-301 1-1-1f59-342
  0-1-3c9-313 0-1-3c9-314 0-1-1f60-300 0-1-1f61-300 0-1-1f60-301 0-1-1f61-301 0-1-1f60-342
  0-1-1f61-342 0-1-3a9-313 0-1-3a9-314 0-1-1f68-300 0-1-1f69-300 0-1-1f68-301 0-1-1f69-301
  0-1-1f68-342 0-1-1f69-342 0-1-3b1-300 1-1-3b5-300 1-1-3b7-300 1-1-3b9-300 1-1-3bf-300
  1-1-3c5-300 1-1-3c9-300 3-1-1f00-345 0-1-1f01-345 0-1-1f02-345 0-1-1f03-345 0-1-1f04-345
  0-1-1f05-345 0-1-1f06-345 0-1-1f07-345 0-1-1f08-345 0-1-1f09-345 0-1-1f0a-345 0-1-1f0b-345
  0-1-1f0c-345 0-1-1f0d-345 0-1-1f0e-345 0-1-1f0f-345 0-1-1f20-345 0-1-1f21-345 0-1-1f22-345
  0-1-1f23-345 0-1-1f24-345 0-1-1f25-345 0-1-1f26-345 0-1-1f27-345 0-1-1f28-345 0-1-1f29-345
  0-1-1f2a-345 0-1-1f2b-345 0-1-1f2c-345 0-1-1f2d-345 0-1-1f2e-345 0-1-1f2f-345 0-1-1f60-345
  0-1-1f61-345 0-1-1f62-345 0-1-1f63-345 0-1-1f64-345 0-1-1f65-345 0-1-1f66-345 0-1-1f67-345
  0-1-1f68-345 0-1-1f69-345 0-1-1f6a-345 0-1-1f6b-345 0-1-1f6c-345 0-1-1f6d-345 0-1-1f6e-345
  0-1-1f6f-345 0-1-3b1-306 0-1-3b1-304 0-1-1f70-345 0-1-3b1-345 0-1-3ac-345 1-1-3b1-342
  0-1-1fb6-345 0-1-391-306 0-1-391-304 0-1-391-300 1-1-391-345 4-1-a8-342 0-1-1f74-345
  0-1-3b7-345 0-1-3ae-345 1-1-3b7-342 0-1-1fc6-345 0-1-395-300 1-1-397-300 1-1-397-345
  0-1-1fbf-300 0-1-1fbf-301 0-1-1fbf-342 0-1-3b9-306 0-1-3b9-304 0-1-3ca-300 3-1-3b9-342
  0-1-3ca-342 0-1-399-306 0-1-399-304 0-1-399-300 2-1-1ffe-300 0-1-1ffe-301 0-1-1ffe-342
  0-1-3c5-306 0-1-3c5-304 0-1-3cb-300 1-1-3c1-313 0-1-3c1-314 0-1-3c5-342 0-1-3cb-342 0-1-3a5-306
  0-1-3a5-304 0-1-3a5-300 1-1-3a1-314 0-1-a8-300 4-1-1f7c-345 0-1-3c9-345 0-1-3ce-345 1-1-3c9-342
  0-1-1ff6-345 0-1-39f-300 1-1-3a9-300 1-1-3a9-345 19d-1-2190-338 0-1-2192-338 12-1-2194-338
  1e-1-21d0-338 0-1-21d4-338 0-1-21d2-338 34-1-2203-338 4-1-2208-338 2-1-220b-338 17-1-2223-338
  1-1-2225-338 1a-1-223c-338 2-1-2243-338 2-1-2245-338 1-1-2248-338 16-1-3d-338 1-1-2261-338
  a-1-224d-338 0-1-3c-338 0-1-3e-338 0-1-2264-338 0-1-2265-338 2-1-2272-338 0-1-2273-338
  2-1-2276-338 0-1-2277-338 6-1-227a-338 0-1-227b-338 2-1-2282-338 0-1-2283-338 2-1-2286-338
  0-1-2287-338 22-1-22a2-338 0-1-22a8-338 0-1-22a9-338 0-1-22ab-338 30-1-227c-338 0-1-227d-338
  0-1-2291-338 0-1-2292-338 6-1-22b2-338 0-1-22b3-338 0-1-22b4-338 0-1-22b5-338 d5e-1-304b-3099
  1-1-304d-3099 1-1-304f-3099 1-1-3051-3099 1-1-3053-3099 1-1-3055-3099 1-1-3057-3099
  1-1-3059-3099 1-1-305b-3099 1-1-305d-3099 1-1-305f-3099 1-1-3061-3099 2-1-3064-3099
  1-1-3066-3099 1-1-3068-3099 6-1-306f-3099 0-1-306f-309a 1-1-3072-3099 0-1-3072-309a
  1-1-3075-3099 0-1-3075-309a 1-1-3078-3099 0-1-3078-309a 1-1-307b-3099 0-1-307b-309a
  16-1-3046-3099 9-1-309d-3099 d-1-30ab-3099 1-1-30ad-3099 1-1-30af-3099 1-1-30b1-3099
  1-1-30b3-3099 1-1-30b5-3099 1-1-30b7-3099 1-1-30b9-3099 1-1-30bb-3099 1-1-30bd-3099
  1-1-30bf-3099 1-1-30c1-3099 2-1-30c4-3099 1-1-30c6-3099 1-1-30c8-3099 6-1-30cf-3099
  0-1-30cf-309a 1-1-30d2-3099 0-1-30d2-309a 1-1-30d5-3099 0-1-30d5-309a 1-1-30d8-3099
  0-1-30d8-309a 1-1-30db-3099 0-1-30db-309a 16-1-30a6-3099 2-1-30ef-3099 0-1-30f0-3099
  0-1-30f1-3099 0-1-30f2-3099 3-1-30fd-3099 d4ca-1-105d2-307 1a-1-105da-307 ab5-1-11099-110ba
  1-1-1109b-110ba e-1-110a5-110ba 82-1-11131-11127 0-1-11132-11127 21b-1-11347-1133e
  0-1-11347-11357 36-1-11382-113c9 1-1-11384-113bb 8-1-1138b-113c2 2-1-11390-113c9
  33-1-113c2-113c2 1-1-113c2-113b8 0-1-113c2-113c9 f2-1-114b9-114ba 0-1-114b9-114b0
  1-1-114b9-114bd fb-1-115b8-115af 0-1-115b9-115af 37c-1-11935-11930 47e8-1-1611e-1611e
  0-1-1611e-16129 0-1-1611e-1611f 0-1-16129-1611f 0-1-1611e-16120 0-1-16121-1611f 0-1-16122-1611f
  0-1-16121-16120 c3f-1-16d67-16d67 0-1-16d63-16d67 0-1-16d69-16d67"

/-- The composed characters, each with the two that it is composed of. -/
def partsList : List (Nat × List Nat) := partsTable.entries 0

/-- The first syllable of Hangul. -/
def firstSyllable : Nat := 0xAC00

/-- How many syllables of Hangul there are. -/
def syllableCount : Nat := 11172

/-- How many syllables share a first letter, and how many share the first two. -/
def syllableSteps : Nat × Nat := (588, 28)

/-- The first one of the letters in front, in the middle, and, not itself a letter, at the end of a
syllable. -/
def syllableLetters : Nat × Nat × Nat := (0x1100, 0x1161, 0x11A7)

/-- The two characters that a syllable with this number is composed of. -/
def syllableParts (n : Nat) : Nat × Nat :=
  let (large, small) := syllableSteps
  let (front, middle, back) := syllableLetters
  if n % small = 0 then (front + n / large, middle + n % large / small)
  else (firstSyllable + n - n % small, back + n % small)

/-- The two characters that the one with this number is composed of. -/
def parts? (n : Nat) : Option (Nat × Nat) :=
  if n < 0xC0 then none
  else if firstSyllable ≤ n ∧ n < firstSyllable + syllableCount then
    some (syllableParts (n - firstSyllable))
  else match partsTable.find? n with
    | some (_, [a, b]) => some (a, b)
    | _ => none

/-- The syllable that two characters are composed to. -/
def syllable? (a b : Nat) : Option Nat :=
  let (large, small) := syllableSteps
  let (front, middle, back) := syllableLetters
  let isFront := front ≤ a ∧ a < front + syllableCount / large
  let isMiddle := middle ≤ b ∧ b < middle + large / small
  let isOpen := firstSyllable ≤ a ∧ a < firstSyllable + syllableCount ∧
    (a - firstSyllable) % small = 0
  let isBack := back < b ∧ b < back + small
  if isFront ∧ isMiddle then some (firstSyllable + (a - front) * large + (b - middle) * small)
  else if isOpen ∧ isBack then some (a + (b - back))
  else none

/-- The character that two characters are composed to. -/
def whole? (a b : Nat) : Option Nat :=
  (syllable? a b).or ((partsList.find? fun entry => entry.2 == [a, b]).map Prod.fst)

/-! ## Whole texts -/

/-- The characters that the one with this number is composed of in the end. -/
def allParts (n : Nat) : List Nat :=
  match parts? n with
  | none => [n]
  | some (a, b) => if a < n then allParts a ++ [b] else [n]

/-- Put a character in front of others, behind the marks there that have a lower class. -/
def insertMark (c : Char × Nat) : List (Char × Nat) → List (Char × Nat)
  | [] => [c]
  | x :: rest => if 0 < x.2 ∧ x.2 < c.2 then x :: insertMark c rest else c :: x :: rest

/-- The text taken apart, with marks in order, each character with its class. -/
def decompose (text : List Char) : List (Char × Nat) :=
  let parts := (text.flatMap fun c => allParts c.toNat).map Char.ofNat
  parts.foldr (fun c rest => insertMark (c, combiningClass c) rest) []

/-- A text while it is composed. -/
structure Composer where
  /-- What is complete, the last character first. -/
  complete : List Char
  /-- The letter that is being composed. -/
  letter : Option Char
  /-- The marks behind it that stayed, the last one first. -/
  marks : List Char
  /-- The class of the last mark that stayed. -/
  lastClass : Nat

namespace Composer

/-- Nothing was read. -/
def start : Composer := ⟨[], none, [], 0⟩

/-- All that was read, the last character first. -/
def reversed (composer : Composer) : List Char :=
  composer.marks ++ composer.letter.toList ++ composer.complete

/-- Keep a character as it is. -/
def keep (composer : Composer) (c : Char) (rank : Nat) : Composer :=
  if rank = 0 then ⟨composer.reversed, some c, [], 0⟩
  else { composer with marks := c :: composer.marks, lastClass := rank }

/-- Read a character of a class. -/
def read (composer : Composer) (c : Char × Nat) : Composer :=
  let reachable := composer.marks.isEmpty || composer.lastClass < c.2
  let whole := composer.letter.bind fun letter =>
    if reachable then whole? letter.toNat c.1.toNat else none
  match whole with
  | some whole => { composer with letter := some (Char.ofNat whole) }
  | none => composer.keep c.1 c.2

end Composer

/-- The composed form of a text.  In front of the first mark of all, there is only one form. -/
def compose (text : List Char) : List Char :=
  if text.all fun c => c.toNat < 0x300 then text
  else ((decompose text).foldl Composer.read .start).reversed.reverse

example : syllable? 0x1100 0x1161 = some 0xAC00 ∧ syllable? 0xAC00 0x11A8 = some 0xAC01 ∧
    syllableParts 1 = (0xAC00, 0x11A8) ∧ syllableParts 0 = (0x1100, 0x1161) := by decide

end Composition

end PageCensus
