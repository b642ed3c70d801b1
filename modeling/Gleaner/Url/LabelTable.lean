/-!
Characters of international domain names by their direction and by how letters join. Ranges are
written as in the tables of properties; characters that no name holds may stand in any of them.
-/
namespace Gleaner.Url

/-- Characters written from right to left. -/
def rightText : String :=
"5be 1 2 2 9-24 13 2 1 d-2f 22-2 1-64 f-1 7-1 a-16 1-1d 1d-58 b-39 9-1 4 3-17 4 9 3 7-28 5-39 8-29
f2e8-20 1bd-3e a4 98c-11b 4-e0 f-25 a-a4 6-4a a-6f 50-48 77-63 1c-4f f0-29 3-4f 3-45 b-30 4-70
d809-cf 52-21 7-14 311-43 4c-3c"

/-- Digits and signs of Arabic numbers. -/
def arabicNumberText : String :=
"660-9 1-1 106c3-9 126-1e"

/-- Digits of European numbers. -/
def europeanNumberText : String :=
"30-9 6b6-9 fbe7-1a"

/-- Signs without a direction of their own. -/
def neutralText : String :=
"0-8 5-d 5-e a-26 1a-5c 1f 1c1-1 7-d 2-1b 1-10 75 80 193-5 76-1 1-1 1 1-1 5a 73 a 10c-3 1f8-1 7 f5
101-7 7d-6 1c0 fa-3 452-9 66 29a-1 13e 14-1a 135-5 98-21 60c-52 41-21 42-49 3c-1ab 45-19 1-90 19-a
a0-1c0 1-152 100-295 1-68 e5-5 e-6 100-f2 10e-3 3-18 f 6 5-2 60 5a c4-23 1bdc-3f 5690-36 146-2 63
a-1 80-21 66 9f-3 c-1 3a-3 2f2-1 51d2-11 7f-30 45-1 2ba 3e-4c 3-10 77e 219-6 512-13 5fa-c 968-1c
4ff0 6206-58 3 ba-56 fa8 bf0-1 10e-12f 3d-2 3d b2-5 9a-3d7 4-9a 4-136 4e-153 c-28 7-2d 1-6 8-d 4-8
7-da"

/-- Letters joined to their neighbours on both sides. -/
def joinsBothText : String :=
"620 5 1 1-4 4-c 1-6 1-1 23-1 9-e 12-25 1-1 9 1 1-1 28-2 2 12-2 5-3 1-8 1 1 1-1 1f-a 3-e 2-3 1 2-2
2-5 4a-20 56-4 2 1-9 1 a 1-3 2 1d 2-4 1 10-9 5-1 2-5 1-e f3e 18-58 e-21 1 8f95-31 624e-4 e-3 1-4
1-2 a-3 91 1 3-2 1-1 1 2 1c-1 152-20 1 19f-1 1-1 68-2 1-10 c-2 1c-3 2-b 2e 1-1 4 2-1 1-1 1 2 5
d957-21"

/-- Letters joined only to the letter before them. -/
def joinsBeforeText : String :=
"622-3 1 1 5-3 15 28-2 14-11 26 2-8 1 1 2-1 1 18-1 20 4-4 4 9 1 1 2 1d b-2 f-1 4 1-1 3-1 c6 5-1 1 a
1-2 e 1-19 b 1b-2 1 2-1 6 1020b 1 1-1 3-4 a 3 2 a 91 1-2 3 2 1-1 1 17-3 175 19f 70 20 1f-1 3e-2
2-1 2 4-1 5"

/-- Letters joined only to the letter after them. -/
def joinsAfterText : String :=
"a872 625a 9 228 2ca"

end Gleaner.Url
