import FilterQuery.Unicode.Range

/-!
# Text segments

What code points mean for the borders between characters as readers see them, between words, and
between sentences. Each of the three properties has its own values; a hyphen stands for code points
without one.
-/

namespace FilterQuery.Unicode

/-- The values for characters, by their labels, with their names in lower case and without
separators. -/
def graphemeBreakNames : List (String × List String) := [
  ("C", ["control", "cn"]), ("R", ["cr"]), ("E", ["extend", "ex"]), ("L", ["l"]), ("F", ["lf"]),
  ("P", ["prepend", "pp"]), ("I", ["regionalindicator", "ri"]), ("M", ["spacingmark", "sm"]),
  ("T", ["t"]), ("V", ["v"]), ("J", ["zwj"])]

/-- Runs of code points from zero on: a label, then the length in hexadecimal. The label `H` is for
Hangul syllables, which have one of two values. -/
def graphemeBreakRuns : List (String × Nat) := decodeRuns 1
  "CA F1 C2 R1 C12 -5F C21 -D C1 -252 E70 -113 E7 -107 E2D -1 E1 -1 E2 -1 E2 -1 E1 -38 P6 -A EB -1
   C1 -2E E15 -10 E1 -65 E7 P1 -1 E6 -2 E2 -1 E4 -21 P1 -1 E1 -1E E1B -5B EB -3A E9 -9 E1 -18 E4
   -1 E9 -1 E3 -1 E5 -2B E3 -34 P2 -5 E9 -2A E18 P1 E20 M1 -36 E1 M1 E1 -1 M3 E8 M4 E1 M2 -1 E7 -A
   E2 -1D E1 M2 -38 E1 -1 E1 M2 E4 -2 M2 -2 M2 E1 -9 E1 -A E2 -1A E1 -2 E2 M1 -38 E1 -1 M3 E2 -4
   E2 -2 E3 -3 E1 -1E E2 -3 E1 -B E2 M1 -38 E1 -1 M3 E5 -1 E2 M1 -1 M2 E1 -14 E2 -16 E6 -1 E1 M2
   -38 E1 -1 E2 M1 E4 -2 M2 -2 M2 E1 -7 E3 -A E2 -1E E1 -3B E1 M1 E1 M2 -3 M3 -1 M3 E1 -9 E1 -28
   E1 M3 E1 -37 E1 -1 E3 M4 -1 E3 -1 E4 -7 E2 -B E2 -1D E1 M2 -38 E1 -1 M1 E2 M1 E1 M2 -1 E3 -1 E4
   -7 E2 -B E2 -F M1 -C E2 M2 -37 E2 -1 E1 M2 E4 -1 M3 -1 M3 E1 P1 -8 E1 -A E2 -1D E1 M2 -46 E1 -4
   E1 M2 E3 -1 E1 -1 M7 E1 -12 M2 -3D E1 -1 M1 E7 -C E8 -62 E1 -1 M1 E9 -B E7 -49 E2 -1B E1 -1 E1
   -1 E1 -4 M2 -31 EE M1 E5 -1 E2 -5 EB -1 E24 -9 E1 -66 E4 M1 E6 -1 E2 M2 E2 -17 M2 E2 -4 E3 -10
   E4 -D E1 -1 M1 E2 -6 E1 -F E1 -62 L60 V48 T58 -15D E3 -3B2 E4 -1C E3 -1D E2 -1E E2 -40 E2 M1 E7
   M8 E1 M2 EB -9 E1 -2D E3 C1 E1 -75 E2 -22 E1 -76 E3 M4 E2 M3 -4 M2 E1 M6 E3 -DB E2 M2 E1 -39 M1
   E1 M1 E7 -1 E1 -1 E1 -2 E8 M6 EA -2 E1 -30 E1F -31 E4 M1 -2F EA M4 E3 -26 E9 -C E2 M1 -1E M1 E4
   M2 E6 -38 E1 M1 E2 M3 E1 M1 E5 -30 M8 E8 M2 E2 -98 E3 -1 ED M1 E7 -4 E1 -6 E1 -2 M1 E2 -C6 E40
   -20B C1 E1 J1 C2 -18 C7 -31 C10 -60 E21 -BFE E3 -8D E1 -60 E20 -22A E6 -69 E2 -75D4 E4 -1 EA
   -20 E2 -50 E2 -110 E1 -3 E1 -4 E1 -17 M2 E2 M1 -4 E1 -53 M2 -32 M10 E2 -1A E12 -D E1 -26 E8 -19
   EB M1 E1 -C L1D -3 E3 M1 -2F E1 M2 E4 M2 E2 M2 E1 -24 E1 -43 E6 M2 E2 M2 E2 -C E1 -8 E1 M1 -2E
   E1 -33 E1 -1 E3 -2 E2 -5 E2 -1 E1 -29 M1 E2 M2 -5 M1 E1 -EC M2 E1 M2 E1 M2 -1 M1 E1 -12 H2BA4
   -C V17 -4 T31 -2322 E1 -2E1 E10 -10 E10 -CF C1 -9E E2 -50 CC -201 E1 -E2 E1 -95 E5 -686 E3 -1
   E2 -5 E4 -28 E3 -4 E1 -A5 E2 -23D E4 -41 E5 -13D E2 -4F E4 -46 EB -31 E4 -7A M1 E1 M1 -35 EF
   -29 E1 -2 E2 -A E3 M1 -2D M3 E4 M2 E2 -2 P1 -4 E1 -A P1 -32 E3 -24 E5 M1 E8 -10 M2 -2C E1 -C E2
   M1 -30 M3 E9 M1 E1 -1 P2 -5 E4 -1 M1 E1 -5C M3 E3 M2 E4 -6 E1 -2 E1 -9D E1 M3 E8 -15 E2 M2 -37
   E2 -1 E1 M1 E1 M4 -2 M2 -2 M2 E1 -9 E1 -A M2 -2 E7 -3 E5 -43 E1 M2 E6 -1 E1 -2 E1 -1 E3 M1 -1
   M2 E3 P1 E1 -E E2 -52 M3 E8 M2 E3 M1 E1 -17 E1 -51 E1 M2 E6 M1 E1 M2 E1 M1 E2 M1 E2 -EB E1 M2
   E4 -2 M4 E2 M1 E2 -1B E2 -52 M3 E8 M2 E1 M1 E2 -6A E1 M1 E1 M2 E8 -65 E1 M1 E1 -2 E4 M1 E5 -100
   M3 E9 M1 E2 -F5 E1 M5 -1 M2 -2 E4 P1 M1 P1 M1 E1 -8D M3 E4 -2 E2 M4 E1 -3 M1 -1C EA -28 E6 M1
   P1 E4 -8 E1 -9 E6 M2 E3 -28 P6 ED M1 E2 -195 M1 E7 -1 E6 M1 E1 -52 E16 -1 M1 E7 M1 E2 M1 E2 -7A
   E6 -3 E1 -1 E2 -1 E7 P1 E1 -42 M5 -1 E2 -1 M2 E1 M1 E1 -15B E2 M2 -9 E2 P1 M1 -30 M2 E5 -3 M2
   E3 -17 E1 -14D5 C10 E1 -6 EF -2CC8 EC M3 E3 -9C0 E5 -3B E7 -22C V1 -3 V4 -1E4 E1 -1 M37 -7 E4
   -51 E1 -B E2 -4CAB E2 -1 C4 -125C E2E -2 E17 -21E E5 -3 E6 C8 E8 -2 E7 -1E E4 -94 E3 -7BB E37
   -4 E32 -8 E1 -E E1 -16 E5 -1 EF -550 E7 -1 E11 -2 E7 -1 E2 -1 E5 -64 E1 -A0 E7 -177 E1 -3D E4
   -1FC E4 -FE E2 -2E0 E7 -6D E7 -89B I1A -1FB E5 -C0C00 C20 E60 C80 EF0 CE10 -2F000"

/-- The first of the Hangul syllables that start with the same two letters, and the others. -/
def hangulBlocks : List (Nat × Nat × Nat) :=
  (List.range 399).map fun i =>
    let first := 0xAC00 + 28 * i
    (first, first + 1, first + 27)

/-- The values for words. -/
def wordBreakNames : List (String × List String) := [
  ("A", ["aletter", "le"]), ("R", ["cr"]), ("D", ["doublequote", "dq"]), ("E", ["extend"]),
  ("X", ["extendnumlet", "ex"]), ("O", ["format", "fo"]), ("H", ["hebrewletter", "hl"]),
  ("K", ["katakana", "ka"]), ("F", ["lf"]), ("L", ["midletter", "ml"]), ("M", ["midnum", "mn"]),
  ("B", ["midnumlet", "mb"]), ("W", ["newline", "nl"]), ("N", ["numeric", "nu"]),
  ("I", ["regionalindicator", "ri"]), ("Q", ["singlequote", "sq"]), ("S", ["wsegspace"]),
  ("J", ["zwj"])]

def wordBreakRuns : List (String × Nat) := decodeRuns 1
  "-A F1 W2 R1 -12 S1 -1 D1 -4 Q1 -4 M1 -1 B1 -1 NA L1 M1 -5 A1A -4 X1 -1 A1A -A W1 -24 A1 -2 O1
   -7 A1 -1 L1 -2 A1 -5 A17 -1 A1F -1 A1E0 -6 A22 E70 A5 -1 A2 -2 A4 M1 A1 -6 A1 L1 A3 -1 A1 -1
   A14 -1 A53 -1 A8B -1 E7 AA6 -1 A26 -2 A4 -1 A1 L1 A29 M1 A1 -6 E2D -1 E1 -1 E2 -1 E2 -1 E1 -8
   H1B -4 H4 A1 L1 -B N6 -6 M2 -2 EB -1 O1 -3 A2B E15 NA -1 N1 M1 -1 A2 E1 A63 -1 A1 E7 N1 -1 E6
   A2 E2 -1 E4 A2 NA A3 -2 A1 -F A2 E1 A1E E1B -2 A59 EB A1 -E NA A21 E9 A2 -2 M1 -1 A1 -2 E1 -2
   A16 E4 A1 E9 A1 E3 A1 E5 -12 A19 E3 -4 AB -5 A18 -1 A6 -1 N2 -5 E9 A2A E18 N1 E21 A36 E3 A1 E12
   A1 E7 AA E2 -2 NA -1 A10 E3 -1 A8 -2 A2 -2 A16 -1 A7 -1 A1 -3 A4 -2 E1 A1 E7 -2 E2 -2 E3 A1 -8
   E1 -4 A2 -1 A3 E2 -2 NA A2 -A A1 -1 E1 -2 E3 -1 A6 -4 A2 -2 A16 -1 A7 -1 A2 -1 A2 -1 A2 -2 E1
   -1 E5 -4 E2 -2 E3 -3 E1 -7 A4 -1 A1 -7 NA E2 A3 E1 -B E3 -1 A9 -1 A3 -1 A16 -1 A7 -1 A2 -1 A5
   -2 E1 A1 E8 -1 E3 -1 E3 -2 A1 -F A2 E2 -2 NA -9 A1 E6 -1 E3 -1 A8 -2 A2 -2 A16 -1 A7 -1 A2 -1
   A5 -2 E1 A1 E7 -2 E2 -2 E3 -7 E3 -4 A2 -1 A3 E2 -2 NA -1 A1 -10 E1 A1 -1 A6 -3 A3 -1 A4 -3 A2
   -1 A1 -1 A2 -3 A2 -3 A3 -3 AC -4 E5 -3 E3 -1 E4 -2 A1 -6 E1 -E NA -10 E5 A8 -1 A3 -1 A17 -1 A10
   -2 E1 A1 E7 -1 E3 -1 E4 -7 E2 -1 A3 -2 A1 -2 A2 E2 -2 NA -10 A1 E3 -1 A8 -1 A3 -1 A17 -1 AA -1
   A5 -2 E1 A1 E7 -1 E3 -1 E4 -7 E2 -6 A2 -1 A2 E2 -2 NA -1 A2 E1 -C E4 A9 -1 A3 -1 A29 E2 A1 E7
   -1 E3 -1 E4 A1 -5 A3 E1 -7 A3 E2 -2 NA -A A6 -1 E3 -1 A12 -3 A18 -1 A9 -1 A1 -2 A7 -3 E1 -4 E6
   -1 E1 -1 E8 -6 NA -2 E2 -3D E1 -2 E7 -C E8 -1 NA -57 E1 -2 E9 -B E7 -1 NA -26 A1 -17 E2 -6 NA
   -B E1 -1 E1 -1 E1 -4 E2 A8 -1 A24 -4 E14 -1 E2 A5 EB -1 E24 -9 E1 -64 E14 -1 NA -C E4 -4 E3 -1
   E3 -2 E7 -3 E4 -D EC -1 E1 NA E4 -2 A26 -1 A1 -5 A1 -2 A2B -1 A14D -1 A4 -2 A7 -1 A1 -1 A4 -2
   A29 -1 A4 -2 A21 -1 A4 -2 A7 -1 A1 -1 A4 -2 AF -1 A39 -1 A4 -2 A43 -2 E3 -20 A10 -10 A56 -2 A6
   -3 A26C -2 A11 S1 A1A -5 A4B -3 AB -7 A12 E4 -9 A13 E3 -B A12 E2 -C AD -1 A3 -1 E2 -40 E20 -9
   E1 -2 NA -21 E3 O1 E1 NA -6 A59 -7 A5 E2 A22 E1 A1 -5 A46 -A A1F -1 EC -4 EC -A NA -80 NA -26
   A17 E5 -39 EA -1 E1D -2 E1 NA -6 NA -16 E1F -31 E5 A2F E11 A8 -3 NA -11 E9 -C E3 A1E ED A2 NA
   A2C EE -C A24 E14 -8 NA -3 A3 NA A24 -2 AB -5 A2B -2 A3 -10 E3 -1 E15 A4 E1 A6 E1 A2 E3 A1 -5
   AC0 E40 A116 -2 A6 -2 A26 -2 A6 -2 A8 -1 A1 -1 A1 -1 A1 -1 A1F -2 A35 -1 A7 -1 A1 -3 A3 -1 A7
   -3 A4 -2 A6 -4 AD -5 A3 -1 A7 -3 S7 -1 S3 -1 E1 J1 O2 -8 B2 -A B1 -2 L1 W2 O5 X1 -F X2 -3 M1 -F
   X1 -A S1 O5 -1 OA -1 A1 -D A1 -10 AD -33 E21 -11 A1 -4 A1 -2 AA -1 A1 -3 A5 -6 A1 -1 A1 -1 A1
   -1 A4 -1 AB -2 A4 -5 A5 -4 A1 -11 A29 -32D A34 -716 AE5 -6 A4 E3 A2 -C A26 -1 A1 -5 A1 -2 A38
   -7 A1 -F E1 A17 -9 A7 -1 A7 -1 A7 -1 A7 -1 A7 -1 A7 -1 A7 -1 A7 -1 E20 -2F A1 -1D0 S1 -4 A1 -24
   E6 -1 K5 -5 A2 -5C E2 K2 -3 K5B -1 K4 -5 A2B -1 A5E -11 A20 -30 K10 -D0 K2F -1 K58 -6CA8 A48D
   -43 A2E -2 A10D -3 A10 NA A2 -14 A2F E4 -1 EA -1 A1F E2 A50 E2 -16 AC6 -2 A2 -1 A1 -1 A8 -15
   A10 E1 A3 E1 A4 E1 A17 E5 -4 E1 -13 A34 -C E2 A32 E12 -A NA -6 E12 A6 -3 A1 -1 A2 E1 NA A1C E8
   -2 A17 ED -C A1D -3 E4 A2F EE -E A1 NA -B E1 -A NA -6 A29 EE -9 A3 E1 A8 E2 -2 NA -21 E3 -32 E1
   -1 E3 -2 E2 -5 E2 -1 E1 -1E AB E5 -2 A3 E2 -A A6 -2 A6 -2 A6 -9 A7 -1 A7 -1 A3A -6 A73 E8 -1 E2
   -2 NA -6 A2BA4 -C A17 -4 A31 -2304 A7 -C A5 -5 H1 E1 HA -1 HD -1 H5 -1 H1 -1 H2 -1 H2 -1 HA A62
   -21 A16B -12 A40 -2 A36 -28 AC -4 E10 M1 -2 L1 M1 -B E10 -3 X2 -18 X3 M1 -1 B1 -1 M1 L1 -1A A5
   -1 A87 -2 O1 -7 B1 -4 M1 -1 B1 -1 NA L1 M1 -5 A1A -4 X1 -1 A1A -B K38 E2 A1F -3 A6 -2 A6 -2 A6
   -2 A3 -1C O3 -4 AC -1 A1A -1 A13 -1 A2 -1 AF -2 AE -22 A7B -45 A35 -88 E1 -82 A1D -3 A31 -F E1
   -1F A20 -D A1E -5 A26 E5 -5 A1E -2 A24 -4 A8 -1 A5 -2A A9E -2 NA -6 A24 -4 A24 -4 A28 -8 A34 -C
   AB -1 AF -1 A7 -1 A2 -1 AB -1 AF -1 A7 -1 A2 -3 A34 -C A137 -9 A16 -A A8 -18 A6 -1 A2A -1 A9
   -45 A6 -2 A1 -1 A2C -1 A2 -3 A1 -2 A17 -A A17 -9 A1F -41 A13 -1 A2 -A A16 -A A1A -46 A38 -6 A2
   -40 A1 E3 -1 E2 -5 E4 A4 -1 A3 -1 A1D -2 E3 -4 E1 -20 A1D -3 A1D -23 A8 -1 A1C E2 -19 A36 -A
   A16 -A A13 -D A12 -6E A49 -37 A33 -D A33 -D A24 E4 -8 NA -6 NA A1C -3 E5 -1 A17 -FA A2A -1 E2
   -3 A2 -10 A3 -37 E4 A1D -A A1 -8 A16 EB -1F A12 E4 -2A A15 -1B A17 -9 E3 A35 EF -1F NA E1 A2 E2
   A1 -9 E4 A2D EB -2 N1 -4 E1 -A N1 -2 A19 -7 NA -6 E3 A24 EE -1 NA -4 A1 E2 A1 -8 A23 E1 -2 A1
   -9 E3 A30 EE A4 -4 E4 -1 E2 NA A1 -1 A1 -23 A12 -1 A19 EC -6 E1 A2 E1 -3E A7 -1 A1 -1 A4 -1 AF
   -1 AA -7 A2F EC -5 NA -6 E4 -1 A8 -2 A2 -2 A16 -1 A7 -1 A2 -1 A5 -1 E2 A1 E7 -2 E2 -2 E3 -2 A1
   -6 E1 -5 A5 E2 -2 E7 -3 E5 -B AA -1 A1 -2 A1 -1 A26 -1 A1 E9 -1 E1 -2 E1 -1 E4 -1 E5 A1 E1 A1
   -D E2 -1D A35 E12 A4 -5 NA -4 E1 A3 -1E A30 E14 A2 -1 A1 -8 NA -A6 A2F E7 -2 E9 -17 A4 E2 -22
   A30 E11 -3 A1 -B NA -26 A2B ED A1 -7 NA -6 N14 -39 EF -4 NA -C6 A2C EF -65 A40 NA -15 A8 -2 A1
   -2 A8 -1 A2 -1 A18 E6 -1 E2 -2 E4 A1 E1 A1 E2 -C NA -46 A8 -2 A27 E7 -2 E7 A1 -1 A1 E1 -1B A1
   EA A28 E7 A1 E4 -8 E1 -8 A1 EB A2E E10 -3 A1 -12 A49 -C7 A21 -F NA -6 A9 -1 A25 E8 -1 E8 A1 -F
   NA -18 A1E -2 E16 -1 EE -49 A7 -1 A2 -1 A26 E6 -3 E1 -1 E2 -1 E7 A1 E1 -8 NA -6 A6 -1 A2 -1 A20
   E5 -1 E2 -1 E5 A1 -7 NA -136 A13 E4 -9 E2 A1 E1 AD -1 A22 E7 -3 E5 -D NA E1 -55 A1 -4F A39A -66
   A6F -11 AC4 -A4C A61 -F A430 O10 E1 A6 EF -A AF9B -5 A247 -1AB9 A1E E12 NA -6C6 A239 -7 A1F -1
   NA -6 A4F -1 NA -6 A1E -2 E5 -B A30 E7 -9 A4 -C NA -9 A15 -5 A13 -1B0 A2D -3 NA -C6 A40 -80 A4B
   -4 E1 A1 E37 -7 E4 AD -40 A2 -1 A1 E1 -B E2 -3FFE K4 -1 K7 -1 K2 -1 K1 -11F K3 -32 K1 -E K4
   -A98 A6B -5 AD -3 A9 -7 AA -3 E2 -1 O4 -104C NA -206 E2E -2 E17 -21E E5 -3 E6 O8 E8 -2 E7 -1E
   E4 -94 E3 -1BB A55 -1 A47 -1 A2 -2 A1 -2 A2 -2 A4 -1 AC -1 A1 -1 A7 -1 A41 -1 A4 -2 A8 -1 A7 -1
   A1C -1 A4 -1 A5 -1 A1 -3 A7 -1 A154 -2 A19 -1 A19 -1 A1F -1 A19 -1 A1F -1 A19 -1 A1F -1 A19 -1
   A1F -1 A19 -1 A8 -2 N32 -200 E37 -4 E32 -8 E1 -E E1 -16 E5 -1 EF -450 A1F -6 A6 -D5 E7 -1 E11
   -2 E7 -1 E2 -1 E5 -5 A3E -21 E1 -70 A2D -3 E7 A7 -2 NA -4 A1 -141 A1E E1 -11 A2C E4 NA -1D6 A1C
   E4 NA -D6 A1E E2 A1 NA -1E5 A7 -1 A4 -1 A2 -1 AF -1 AC5 -B E7 -29 A44 E7 A1 -4 NA -4A6 A4 -1
   A1B -1 A2 -1 A1 -2 A1 -1 AA -1 A4 -1 A1 -1 A1 -6 A1 -4 A1 -1 A1 -1 A1 -1 A3 -1 A2 -1 A1 -2 A1
   -1 A1 -1 A1 -1 A1 -1 A1 -1 A2 -1 A1 -2 A4 -1 A7 -1 A4 -1 A4 -1 A1 -1 AA -1 A11 -5 A3 -1 A5 -1
   A11 -274 A1A -6 A1A -6 A1A -5C I1A -1FB E5 -7F0 NA -C0407 O1 -1E E60 -80 EF0 -2FE10"

/-- The values for sentences. -/
def sentenceBreakNames : List (String × List String) := [
  ("A", ["aterm", "at"]), ("C", ["close", "cl"]), ("R", ["cr"]), ("E", ["extend", "ex"]),
  ("O", ["format", "fo"]), ("F", ["lf"]), ("L", ["lower", "lo"]), ("N", ["numeric", "nu"]),
  ("G", ["oletter", "le"]), ("K", ["scontinue", "sc"]), ("P", ["sep", "se"]), ("S", ["sp", "sp"]),
  ("T", ["sterm", "st"]), ("U", ["upper", "up"])]

def sentenceBreakRuns : List (String × Nat) := decodeRuns 1
  "-9 S1 F1 S2 R1 -12 S1 T1 C1 -4 C3 -2 K2 A1 -1 NA K1 -4 T1 -1 U1A C1 -1 C1 -3 L1A C1 -1 C1 -7 P1
   -1A S1 -9 L1 C1 -1 O1 -7 L1 -4 L1 C1 -4 U17 -1 U7 L18 -1 L8 U1 L1 U1 L1 U1 L1 U1 L1 U1 L1 U1 L1
   U1 L1 U1 L1 U1 L1 U1 L1 U1 L1 U1 L1 U1 L1 U1 L1 U1 L1 U1 L1 U1 L1 U1 L1 U1 L1 U1 L1 U1 L1 U1 L1
   U1 L1 U1 L1 U1 L1 U1 L1 U1 L1 U1 L2 U1 L1 U1 L1 U1 L1 U1 L1 U1 L1 U1 L1 U1 L1 U1 L2 U1 L1 U1 L1
   U1 L1 U1 L1 U1 L1 U1 L1 U1 L1 U1 L1 U1 L1 U1 L1 U1 L1 U1 L1 U1 L1 U1 L1 U1 L1 U1 L1 U1 L1 U1 L1
   U1 L1 U1 L1 U1 L1 U1 L1 U1 L1 U2 L1 U1 L1 U1 L3 U2 L1 U1 L1 U2 L1 U3 L2 U4 L1 U2 L1 U3 L3 U2 L1
   U2 L1 U1 L1 U1 L1 U2 L1 U1 L2 U1 L1 U2 L1 U3 L1 U1 L1 U2 L2 G1 U1 L3 G4 U2 L1 U2 L1 U2 L1 U1 L1
   U1 L1 U1 L1 U1 L1 U1 L1 U1 L1 U1 L1 U1 L2 U1 L1 U1 L1 U1 L1 U1 L1 U1 L1 U1 L1 U1 L1 U1 L1 U1 L2
   U2 L1 U1 L1 U3 L1 U1 L1 U1 L1 U1 L1 U1 L1 U1 L1 U1 L1 U1 L1 U1 L1 U1 L1 U1 L1 U1 L1 U1 L1 U1 L1
   U1 L1 U1 L1 U1 L1 U1 L1 U1 L1 U1 L1 U1 L1 U1 L1 U1 L1 U1 L1 U1 L1 U1 L1 U1 L1 U1 L1 U1 L1 U1 L7
   U2 L1 U2 L2 U1 L1 U4 L1 U1 L1 U1 L1 U1 L1 U1 L45 G1 L24 G7 L2 -4 GC -E L5 -7 G1 -1 G1 -11 E70
   U1 L1 U1 L1 G1 -1 U1 L1 -2 L4 -1 U1 -6 U1 -1 U3 -1 U1 -1 U2 L1 U11 -1 U9 L23 U1 L2 U3 L3 U1 L1
   U1 L1 U1 L1 U1 L1 U1 L1 U1 L1 U1 L1 U1 L1 U1 L1 U1 L1 U1 L1 U1 L5 U1 L1 -1 U1 L1 U2 L2 U33 L30
   U1 L1 U1 L1 U1 L1 U1 L1 U1 L1 U1 L1 U1 L1 U1 L1 U1 L1 U1 L1 U1 L1 U1 L1 U1 L1 U1 L1 U1 L1 U1 L1
   U1 L1 -1 E7 U1 L1 U1 L1 U1 L1 U1 L1 U1 L1 U1 L1 U1 L1 U1 L1 U1 L1 U1 L1 U1 L1 U1 L1 U1 L1 U1 L1
   U1 L1 U1 L1 U1 L1 U1 L1 U1 L1 U1 L1 U1 L1 U1 L1 U1 L1 U1 L1 U1 L1 U1 L1 U1 L1 U2 L1 U1 L1 U1 L1
   U1 L1 U1 L1 U1 L1 U1 L2 U1 L1 U1 L1 U1 L1 U1 L1 U1 L1 U1 L1 U1 L1 U1 L1 U1 L1 U1 L1 U1 L1 U1 L1
   U1 L1 U1 L1 U1 L1 U1 L1 U1 L1 U1 L1 U1 L1 U1 L1 U1 L1 U1 L1 U1 L1 U1 L1 U1 L1 U1 L1 U1 L1 U1 L1
   U1 L1 U1 L1 U1 L1 U1 L1 U1 L1 U1 L1 U1 L1 U1 L1 U1 L1 U1 L1 U1 L1 U1 L1 U1 L1 U1 L1 U1 L1 U1 L1
   U1 L1 U1 L1 U1 L1 U1 L1 -1 U26 -2 G1 -3 K1 -2 L29 T1 -7 E2D -1 E1 -1 E2 -1 E2 -1 E1 -8 G1B -4
   G5 -C N6 -6 K2 -2 EB -1 O1 T3 G2B E15 NA -1 N2 -1 G2 E1 G63 T1 G1 E7 N1 -1 E6 G2 E2 -1 E4 G2 NA
   G3 -2 G1 T3 -C O1 G1 E1 G1E E1B -2 G59 EB G1 -E NA G21 E9 G2 -2 K1 T1 G1 -2 E1 -2 G16 E4 G1 E9
   G1 E3 G1 E5 -9 T1 -1 T1 -3 T2 -1 G19 E3 -4 GB -5 G18 -1 G6 -1 N2 -5 E9 G2A E18 N1 E21 G36 E3 G1
   E12 G1 E7 GA E2 T2 NA -1 G10 E3 -1 G8 -2 G2 -2 G16 -1 G7 -1 G1 -3 G4 -2 E1 G1 E7 -2 E2 -2 E3 G1
   -8 E1 -4 G2 -1 G3 E2 -2 NA G2 -A G1 -1 E1 -2 E3 -1 G6 -4 G2 -2 G16 -1 G7 -1 G2 -1 G2 -1 G2 -2
   E1 -1 E5 -4 E2 -2 E3 -3 E1 -7 G4 -1 G1 -7 NA E2 G3 E1 -B E3 -1 G9 -1 G3 -1 G16 -1 G7 -1 G2 -1
   G5 -2 E1 G1 E8 -1 E3 -1 E3 -2 G1 -F G2 E2 -2 NA -9 G1 E6 -1 E3 -1 G8 -2 G2 -2 G16 -1 G7 -1 G2
   -1 G5 -2 E1 G1 E7 -2 E2 -2 E3 -7 E3 -4 G2 -1 G3 E2 -2 NA -1 G1 -10 E1 G1 -1 G6 -3 G3 -1 G4 -3
   G2 -1 G1 -1 G2 -3 G2 -3 G3 -3 GC -4 E5 -3 E3 -1 E4 -2 G1 -6 E1 -E NA -10 E5 G8 -1 G3 -1 G17 -1
   G10 -2 E1 G1 E7 -1 E3 -1 E4 -7 E2 -1 G3 -2 G1 -2 G2 E2 -2 NA -10 G1 E3 -1 G8 -1 G3 -1 G17 -1 GA
   -1 G5 -2 E1 G1 E7 -1 E3 -1 E4 -7 E2 -6 G2 -1 G2 E2 -2 NA -1 G2 E1 -C E4 G9 -1 G3 -1 G29 E2 G1
   E7 -1 E3 -1 E4 G1 -5 G3 E1 -7 G3 E2 -2 NA -A G6 -1 E3 -1 G12 -3 G18 -1 G9 -1 G1 -2 G7 -3 E1 -4
   E6 -1 E1 -1 E8 -6 NA -2 E2 -D G30 E1 G2 E7 -5 G7 E8 -1 NA -27 G2 -1 G1 -1 G5 -1 G18 -1 G1 -1 GA
   E1 G2 E9 G1 -2 G5 -1 G1 -1 E7 -1 NA -2 G4 -20 G1 -17 E2 -6 NA -B E1 -1 E1 -1 E1 C4 E2 G8 -1 G24
   -4 E14 -1 E2 G5 EB -1 E24 -9 E1 -39 G2B E14 G1 NA T2 -4 G6 E4 G4 E3 G1 E3 G2 E7 G3 E4 GD EC G1
   E1 NA E4 -2 U26 -1 U1 -5 U1 -2 G2B -1 L1 G14C -1 G4 -2 G7 -1 G1 -1 G4 -2 G29 -1 G4 -2 G21 -1 G4
   -2 G7 -1 G1 -1 G4 -2 GF -1 G39 -1 G4 -2 G43 -2 E3 -2 T1 -4 T2 -17 G10 -10 U56 -2 L6 -3 G26C -1
   T1 G11 S1 G1A C2 -3 G4B -3 GB -7 G12 E4 -9 G13 E3 T2 -9 G12 E2 -C GD -1 G3 -1 E2 -C G34 E20 T2
   -1 G1 -4 G1 E1 -2 NA -18 K1 T1 -4 K1 T1 -1 E3 O1 E1 NA -6 G59 -7 G5 E2 G22 E1 G1 -5 G46 -A G1F
   -1 EC -4 EC -8 T2 NA G1E -2 G5 -B G2C -4 G1A -6 NA -26 G17 E5 -4 G35 EA -1 E1D -2 E1 NA -6 NA
   -D G1 T4 -4 E1F -31 E5 G2F E11 G8 -1 T2 NA T2 -2 T2 -B E9 -9 T3 E3 G1E ED G2 NA G2C EE -C G24
   E14 -3 T2 -3 NA -3 G3 NA G24 T2 L9 U1 L1 -5 G2B -2 G3 -10 E3 -1 E15 G4 E1 G6 E1 G2 E3 G1 -5 LC0
   E40 U1 L1 U1 L1 U1 L1 U1 L1 U1 L1 U1 L1 U1 L1 U1 L1 U1 L1 U1 L1 U1 L1 U1 L1 U1 L1 U1 L1 U1 L1
   U1 L1 U1 L1 U1 L1 U1 L1 U1 L1 U1 L1 U1 L1 U1 L1 U1 L1 U1 L1 U1 L1 U1 L1 U1 L1 U1 L1 U1 L1 U1 L1
   U1 L1 U1 L1 U1 L1 U1 L1 U1 L1 U1 L1 U1 L1 U1 L1 U1 L1 U1 L1 U1 L1 U1 L1 U1 L1 U1 L1 U1 L1 U1 L1
   U1 L1 U1 L1 U1 L1 U1 L1 U1 L1 U1 L1 U1 L1 U1 L1 U1 L1 U1 L1 U1 L1 U1 L1 U1 L1 U1 L1 U1 L1 U1 L1
   U1 L1 U1 L1 U1 L1 U1 L1 U1 L1 U1 L1 U1 L1 U1 L1 U1 L1 U1 L1 U1 L1 U1 L9 U1 L1 U1 L1 U1 L1 U1 L1
   U1 L1 U1 L1 U1 L1 U1 L1 U1 L1 U1 L1 U1 L1 U1 L1 U1 L1 U1 L1 U1 L1 U1 L1 U1 L1 U1 L1 U1 L1 U1 L1
   U1 L1 U1 L1 U1 L1 U1 L1 U1 L1 U1 L1 U1 L1 U1 L1 U1 L1 U1 L1 U1 L1 U1 L1 U1 L1 U1 L1 U1 L1 U1 L1
   U1 L1 U1 L1 U1 L1 U1 L1 U1 L1 U1 L1 U1 L1 U1 L1 U1 L1 U1 L1 U1 L1 U1 L1 U1 L9 U8 L6 -2 U6 -2 L8
   U8 L8 U8 L6 -2 U6 -2 L8 -1 U1 -1 U1 -1 U1 -1 U1 L8 U8 LE -2 L8 U8 L8 U8 L8 U8 L5 -1 L2 U5 -1 L1
   -3 L3 -1 L2 U5 -3 L4 -2 L2 U4 -4 L8 U5 -5 L3 -1 L2 U5 -3 SB O1 E2 O2 -3 K2 -3 C8 -4 A1 -3 P2 O5
   S1 -9 C2 -1 T2 -7 C2 T3 -15 S1 O5 -1 OA -1 L1 -B C2 L1 -D C2 -1 LD -33 E21 -11 U1 -4 U1 -2 L1
   U3 L2 U3 L1 -1 U1 -3 U5 -6 U1 -1 U1 -1 U1 -1 U4 -1 L1 U4 L1 G4 L1 -2 L2 U2 -5 U1 L4 -4 L1 -11
   U10 L10 G3 U1 L1 G4 -17F C4 -1D C2 -18B U1A L1A -271 C6 -7 CE -4F C2 -1F CA -193 C16 -3F C4 -20
   C2 -202 U30 L30 U1 L1 U3 L2 U1 L1 U1 L1 U1 L1 U4 L1 U1 L2 U1 L8 U3 L1 U1 L1 U1 L1 U1 L1 U1 L1
   U1 L1 U1 L1 U1 L1 U1 L1 U1 L1 U1 L1 U1 L1 U1 L1 U1 L1 U1 L1 U1 L1 U1 L1 U1 L1 U1 L1 U1 L1 U1 L1
   U1 L1 U1 L1 U1 L1 U1 L1 U1 L1 U1 L1 U1 L1 U1 L1 U1 L1 U1 L1 U1 L1 U1 L1 U1 L1 U1 L1 U1 L1 U1 L1
   U1 L1 U1 L1 U1 L1 U1 L1 U1 L1 U1 L1 U1 L1 U1 L1 U1 L1 U1 L1 U1 L1 U1 L1 U1 L2 -6 U1 L1 U1 L1 E3
   U1 L1 -5 T3 -4 L26 -1 L1 -5 L1 -2 G38 -7 G1 -F E1 G17 -9 G7 -1 G7 -1 G7 -1 G7 -1 G7 -1 G7 -1 G7
   -1 G7 -1 E20 CE -E C2 -2 CA -4 T1 G1 -C T1 -5 C1 -10 T2 C8 -1A3 S1 K1 T1 -2 G3 CA -2 C8 -1 C3
   -1 G9 E6 -1 G5 -2 G5 -4 G56 -2 E2 -2 G3 -1 G5A -1 G4 -5 G2B -1 G5E -11 G20 -30 G10 -200 G19C0
   -40 G568D -43 G2E -1 T1 G10D -1 T2 G10 NA G2 -14 U1 L1 U1 L1 U1 L1 U1 L1 U1 L1 U1 L1 U1 L1 U1
   L1 U1 L1 U1 L1 U1 L1 U1 L1 U1 L1 U1 L1 U1 L1 U1 L1 U1 L1 U1 L1 U1 L1 U1 L1 U1 L1 U1 L1 U1 L1 G1
   E4 -1 EA -1 G1 U1 L1 U1 L1 U1 L1 U1 L1 U1 L1 U1 L1 U1 L1 U1 L1 U1 L1 U1 L1 U1 L1 U1 L1 U1 L1 U1
   L3 E2 G50 E2 -1 T1 -3 T1 -1F G9 -2 U1 L1 U1 L1 U1 L1 U1 L1 U1 L1 U1 L1 U1 L3 U1 L1 U1 L1 U1 L1
   U1 L1 U1 L1 U1 L1 U1 L1 U1 L1 U1 L1 U1 L1 U1 L1 U1 L1 U1 L1 U1 L1 U1 L1 U1 L1 U1 L1 U1 L1 U1 L1
   U1 L1 U1 L1 U1 L1 U1 L1 U1 L1 U1 L1 U1 L1 U1 L1 U1 L1 U1 L1 U1 L1 U1 LA U1 L1 U1 L1 U2 L1 U1 L1
   U1 L1 U1 L1 U1 L1 G1 -2 U1 L1 U1 L1 G1 U1 L1 U1 L3 U1 L1 U1 L1 U1 L1 U1 L1 U1 L1 U1 L1 U1 L1 U1
   L1 U1 L1 U1 L1 U5 L1 U5 L1 U1 L1 U1 L1 U1 L1 U1 L1 U1 L1 U1 L1 U1 L1 U4 L1 U1 L1 U2 L1 -2 U1 L1
   -1 L1 -1 L1 U1 L1 U1 L1 U1 L1 U1 -15 L3 U1 L1 G1 L3 G7 E1 G3 E1 G4 E1 G17 E5 -4 E1 -13 G34 -2
   T2 -8 E2 G32 E12 -8 T2 NA -6 E12 G6 -3 G1 -1 G2 E1 NA G1C E8 -1 T1 G17 ED -C G1D -3 E4 G2F EE
   -7 T2 -5 G1 NA -6 G5 E1 GA NA G5 -1 G29 EE -9 G3 E1 G8 E2 -2 NA -3 T3 G17 -3 G1 E3 G32 E1 G1 E3
   G2 E2 G5 E2 G1 E1 G1 -18 G3 -2 GB E5 T2 G3 E2 -A G6 -2 G6 -2 G6 -9 G7 -1 G7 -1 L2B -1 LE -6 L50
   G23 E8 T1 E2 -2 NA -6 G2BA4 -C G17 -4 G31 -2104 G16E -2 G6A -26 L7 -C L5 -5 G1 E1 GA -1 GD -1
   G5 -1 G1 -1 G2 -1 G2 -1 G6C -21 G16B C2 -10 G40 -2 G36 -28 GC -4 E10 K2 T1 K1 -1 T2 C2 -7 E10
   -1 K2 -2 C10 -2 C2 -7 K2 A1 -2 K1 T2 K1 C6 -4 K1 -C G5 -1 G87 -2 O1 -1 T1 -6 C2 -2 K2 A1 -1 NA
   K1 -4 T1 -1 U1A C1 -1 C1 -3 L1A C1 -1 C1 -1 C2 T1 C2 K1 -1 G38 E2 G1F -3 G6 -2 G6 -2 G6 -2 G3
   -1C O3 -4 GC -1 G1A -1 G13 -1 G2 -1 GF -2 GE -22 G7B -45 G35 -88 E1 -82 G1D -3 G31 -F E1 -1F
   G20 -D G1E -5 G26 E5 -5 G1E -2 G24 -4 G8 -1 G5 -2A U28 L28 G4E -2 NA -6 U24 -4 L24 -4 G28 -8
   G34 -C UB -1 UF -1 U7 -1 U2 -1 LB -1 LF -1 L7 -1 L2 -3 G34 -C G137 -9 G16 -A G8 -18 L1 G2 L3 -1
   L2A -1 L9 -45 G6 -2 G1 -1 G2C -1 G2 -3 G1 -2 G17 -A G17 -9 G1F -41 G13 -1 G2 -A G16 -A G1A -46
   G38 -6 G2 -40 G1 E3 -1 E2 -5 E4 G4 -1 G3 -1 G1D -2 E3 -4 E1 -16 T2 -8 G1D -3 G1D -23 G8 -1 G1C
   E2 -19 G36 -A G16 -A G13 -D G12 -6E G49 -37 U33 -D L33 -D G24 E4 -8 NA -6 NA G6 U16 -3 E5 -1 G1
   L16 -FA G2A -1 E2 -3 G2 -10 G3 -37 E4 G1D -A G1 -8 G16 EB -4 T5 -16 G12 E4 T4 -26 G15 -1B G17
   -9 E3 G35 EF T2 -1D NA E1 G2 E2 G1 -9 E4 G2D EB -2 N1 T4 E1 -A N1 -2 G19 -7 NA -6 E3 G24 EE -1
   NA -1 T3 G1 E2 G1 -8 G23 E1 -2 G1 -9 E3 G30 EE G4 T2 -2 E4 T1 E2 NA G1 -1 G1 -1 T2 -20 G12 -1
   G19 EC T2 -1 T2 -1 E1 G2 E1 -3E G7 -1 G1 -1 G4 -1 GF -1 GA T1 -6 G2F EC -5 NA -6 E4 -1 G8 -2 G2
   -2 G16 -1 G7 -1 G2 -1 G5 -1 E2 G1 E7 -2 E2 -2 E3 -2 G1 -6 E1 -5 G5 E2 -2 E7 -3 E5 -B GA -1 G1
   -2 G1 -1 G26 -1 G1 E9 -1 E1 -2 E1 -1 E4 -1 E5 G1 E1 G1 T2 -B E2 -1D G35 E12 G4 T2 -3 NA -4 E1
   G3 -1E G30 E14 G2 -1 G1 -8 NA -A6 G2F E7 -2 E9 -1 T2 -5 TF G4 E2 -22 G30 E11 T2 -1 G1 -B NA -26
   G2B ED G1 -7 NA -6 N14 -1C G1B -2 EF -4 NA -2 T3 -1 G7 -B9 G2C EF -65 U20 L20 NA -15 G8 -2 G1
   -2 G8 -1 G2 -1 G18 E6 -1 E2 -2 E4 G1 E1 G1 E2 T1 -1 T1 -9 NA -46 G8 -2 G27 E7 -2 E7 G1 -1 G1 E1
   -1B G1 EA G28 E7 G1 E4 -3 T2 -3 E1 -8 G1 EB G2E E10 -1 T2 G1 -12 G49 -C7 G21 -F NA -6 G9 -1 G25
   E8 -1 E8 G1 T2 -D NA -18 G1E -2 E16 -1 EE -49 G7 -1 G2 -1 G26 E6 -3 E1 -1 E2 -1 E7 G1 E1 -8 NA
   -6 G6 -1 G2 -1 G20 E5 -1 E2 -1 E5 G1 -7 NA -136 G13 E4 T2 -7 E2 G1 E1 GD -1 G22 E7 -3 E5 T2 -B
   NA E1 -55 G1 -4F G39A -66 G6F -11 GC4 -A4C G61 -F G430 O10 E1 G6 EF -A GF9B -5 G247 -1AB9 G1E
   E12 NA -6C6 G239 -7 G1F -1 NA -4 T2 G4F -1 NA -6 G1E -2 E5 T1 -A G30 E7 T2 -7 G4 T1 -B NA -9
   G15 -5 G13 -1B0 G2D -1 T2 NA -C6 U20 L20 -18 T1 -67 G4B -4 E1 G1 E37 -7 E4 GD -40 G2 -1 G1 E1
   -B E2 -E G17F8 -8 G4D6 -29 GA -22E7 G4 -1 G7 -1 G2 -1 G123 -F G1 -1D G3 -2 G1 -E G4 -8 G18C
   -904 G6B -5 GD -3 G9 -7 GA -3 E2 T1 O4 -104C NA -206 E2E -2 E17 -21E E5 -3 E6 O8 E8 -2 E7 -1E
   E4 -94 E3 -1BB U1A L1A U1A L7 -1 L12 U1A L1A U1 -1 U2 -2 U1 -2 U2 -2 U4 -1 U8 L4 -1 L1 -1 L7 -1
   LB U1A L1A U2 -1 U4 -2 U8 -1 U7 -1 L1A U2 -1 U4 -1 U5 -1 U1 -3 U7 -1 L1A U1A L1A U1A L1A U1A
   L1A U1A L1A U1A L1A U1A L1C -2 U19 -1 L19 -1 L6 U19 -1 L19 -1 L6 U19 -1 L19 -1 L6 U19 -1 L19 -1
   L6 U19 -1 L19 -1 L6 U1 L1 -2 N32 -200 E37 -4 E32 -8 E1 -E E1 -3 T1 -12 E5 -1 EF -450 LA G1 L14
   -6 L6 -D5 E7 -1 E11 -2 E7 -1 E2 -1 E5 -5 L3E -21 E1 -70 G2D -3 E7 G7 -2 NA -4 G1 -141 G1E E1
   -11 G2C E4 NA -1D6 G1C E4 NA -D6 G1E E2 G1 NA -1E5 G7 -1 G4 -1 G2 -1 GF -1 GC5 -B E7 -29 U22
   L22 E7 G1 -4 NA -4A6 G4 -1 G1B -1 G2 -1 G1 -2 G1 -1 GA -1 G4 -1 G1 -1 G1 -6 G1 -4 G1 -1 G1 -1
   G1 -1 G3 -1 G2 -1 G1 -2 G1 -1 G1 -1 G1 -1 G1 -1 G1 -1 G2 -1 G1 -2 G4 -1 G7 -1 G4 -1 G4 -1 G1 -1
   GA -1 G11 -5 G3 -1 G5 -1 G11 -274 U1A -6 U1A -6 U1A -4EC C3 -577 NA -406 GA6E0 -20 G103A -6 GDE
   -2 G1682 -E G1D31 -F G26E -9A2 G21E -5E2 G134B -5 G1060 -ADC51 O1 -1E E60 -80 EF0 -2FE10"

end FilterQuery.Unicode
