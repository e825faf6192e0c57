import FilterQuery.Unicode.Range

/-!
# Ages

The age of a code point is the version of the standard in which it was assigned.
-/

namespace FilterQuery.Unicode

/-- The versions in order, each with the label of its runs: a digit or a letter for the major
number and a digit for the minor one. -/
def versions : List (String × String) := [
  ("1.1", "11"), ("2.0", "20"), ("2.1", "21"), ("3.0", "30"), ("3.1", "31"), ("3.2", "32"),
  ("4.0", "40"), ("4.1", "41"), ("5.0", "50"), ("5.1", "51"), ("5.2", "52"), ("6.0", "60"),
  ("6.1", "61"), ("6.2", "62"), ("6.3", "63"), ("7.0", "70"), ("8.0", "80"), ("9.0", "90"),
  ("10.0", "A0"), ("11.0", "B0"), ("12.0", "C0"), ("12.1", "C1"), ("13.0", "D0"), ("14.0", "E0"),
  ("15.0", "F0"), ("15.1", "F1"), ("16.0", "G0")]

/-- Runs of code points from zero on: the label of the age, then the length in hexadecimal. Two
hyphens stand for code points that are not assigned. -/
def ageRuns : List (String × Nat) := decodeRuns 2
  "111F6 304 111E 308 321 401 3012 403 41B 50E 1159 305 402 112F 301 11A 305 4011 1146 309 321 408
   415 403 112 301 32D 514 112 512 --2 111 503 111 701 --4 117 --1 111 --1 1114 --1 112C 511 117
   301 322 111 301 111 301 111 301 111 301 1112 312 321 405 414 301 11C 301 1142 301 11C 301 1129
   511 302 322 304 1135 322 112 322 112 322 501 111C 302 118 412 112 506 3210 504 5110 522 602 708
   --1 1126 --2 117 B01 1127 B01 111 301 --2 702 611 --1 2011 411 20D 11A 501 119 201 413 --8 111B
   --4 B01 115 --B 404 611 701 515 411 111 409 515 111 631 E01 411 111 601 111A 515 1113 303 403
   416 601 11E 322 1148 302 115 301 11F 301 111E 402 11A 305 401 30E --1 301E 403 301B --2 403
   411E 5112 3031 321 --E 503B --2 B03 522E --2 52F --1 601C --2 601 --1 A0B --5 E01F --1 E02 --5
   G01 E08 611 701 61B 706 802 E01 908 D0A E0B B01 90F 801 611B 701 521 113 401 1135 602 1112 521
   601 115 521 602 1119 512 605 701 522 502 411 502 701 113 --1 118 --2 112 --2 1116 --1 117 --1
   111 --3 114 --2 111 401 117 --2 112 --2 113 411 --8 111 --4 112 --1 115 --2 1115 521 A02 B01
   --2 401 111 401 --1 116 --4 112 --2 1116 --1 117 --1 112 --1 112 --1 112 --2 111 --1 115 --4
   112 --2 113 --3 511 --7 114 --1 111 --7 11F 511 B01 --A 113 --1 117 401 111 --1 113 --1 1116
   --1 117 --1 112 --1 115 --2 11A --1 113 --1 113 --2 111 --F 111 403 --2 11A 611 401 --7 801 A06
   --1 113 --1 118 --2 112 --2 1116 --1 117 --1 112 --1 401 114 --2 118 511 --2 112 --2 113 --7
   D01 112 --4 112 --1 113 512 --2 11B 401 606 --A 112 --1 116 --3 113 --1 114 --3 112 --1 111 --1
   112 --3 112 --3 113 --3 118 411 113 --4 115 --3 113 --1 114 --2 511 --6 111 --E 411 11C 408 --5
   701 113 B01 118 --1 113 --1 1117 --1 11A 701 115 --2 E01 511 117 --1 113 --1 114 --7 112 --1
   512 801 --2 E01 --2 112 512 --2 11A --7 C01 518 901 701 112 B01 118 --1 113 --1 1117 --1 11A
   --1 115 --2 402 117 --1 113 --1 114 --7 112 --6 E01 111 --1 112 502 --2 11A --1 502 F01 --C A01
   701 112 D01 118 --1 113 --1 1117 601 1110 601 A02 511 116 511 --1 113 --1 114 601 901 --4 903
   111 907 801 112 512 --2 11A 516 903 517 --1 D01 302 --1 3012 --3 3018 --1 309 --1 301 --2 307
   --3 301 --4 306 --1 301 --1 308 --6 70A --2 303 --C 113A --4 111D --25 112 --1 111 --1 C01 112
   C01 111 --1 C01 111 C06 114 C01 117 C01 113 --1 111 --1 111 C02 112 C01 11D C01 113 --2 115 --1
   111 --1 116 F01 --1 11A --2 112 612 --20 2048 --1 2021 301 512 --4 201B 604 206 301 201 --1
   2015 303 207 301 201 303 --1 30F --1 511 301 412 513 524 602 --25 3022 511 305 511 302 511 307
   513 304 516 301A 5140 524 512 1126 --1 611 --5 611 --2 1127 322 412 111 411 613 115A 525 1144
   525 1152 526 307 411 303F 411 301 --1 304 --2 307 --1 301 --1 304 --2 3027 411 301 --1 304 --2
   301F 411 301 --1 304 --2 307 --1 301 --1 304 --2 307 411 307 --1 3017 411 301F 411 301 --1 304
   --2 307 411 3027 411 3013 --2 602 412 301C --3 411A --6 3055 801 --2 806 --2 521 30276 529 301D
   --3 3051 708 --7 32D E01 327 E01 --9 E01 3217 --9 3214 --C 32D --1 323 --1 322 --C 305D 401 --2
   30A --6 40A --6 30F E01 30A --6 3058 B01 --7 302A 511 --5 5246 --A 401D 702 --1 40C --4 40C --4
   401 --3 402A --2 405 --B 412A 522 --4 411A --6 41A 521 --3 412 4020 411C --2 412 523F --1 521D
   --2 52B --6 52A --6 52E --2 70F D02 E0E --31 504C E01 --1 G02 502D E02 G01 512B 613 51C 616
   6034 --8 604 5138 --3 51F --3 5133 909 G02 --5 B02B --2 B03 618 --8 5223 614 A01 702 C01 --5
   406C 4158 507 511C 70F A04 E01 901 601 521 502 119B 201 514 115A 516 1116 --2 116 --2 1126 --2
   116 --2 118 --1 111 --1 111 --1 111 --1 111F --2 1135 --1 11F --1 11E --2 116 --1 1113 --2 113
   --1 119 --1 112F 301 1117 321 306 325 402 412 321 417 325 511 --1 634 117 321 --2 111B --1 415
   608 --3 11B 201 211 303 322 414 523 601 621 703 801 A01 E01 --F 1112 302 327 411 504 511 --F
   1139 302 401 411 32F 411 502 511 523 1130 301 501 514 521 802 --4 115B 309 32C 11F2 32E 111 301
   1179 301 321 301E 3234 402 41B 50C 521 60B 707 904 A01 1125 302 G03 --16 11B --15 118B 3214 401
   1196 32A 1150 308 328 1114 402 322 411 301 1156 302 32C 412 32A 408 41B 511 522 402 4110 501
   51A 523 514 52A 601 5213 601 521 604 5218 701 114 601 114 602 111C 601 1123 601 111 601 114 603
   111 521 117 602 117 32E 111F 603 1118 601 11E 601 417 504 611 511 611 602 321C 514 3210 30100
   32200 40E 416 507 515 504 5129 703 515 525 701A --2 7020 --1 D01 7022 B03 70C C01 708 A01 B019
   804 B0F C01 412F E01 412F E01 50D 513 521 513 504 516 522 416B 527 612 --5 412D --1 611 --5 611
   --2 4136 612 --7 411 601 --E 601 4117 --9 417 --1 417 --1 417 --1 417 --1 417 --1 417 --1 417
   --1 417 --1 5120 4118 514 412 5113 521 61A 707 902 A05 B05 C01 D03 E0B --22 301A --1 3059 --C
   30D6 --1A 30C F14 1138 303 323 301 111 --1 1154 322 --2 116 322 115E 321 --5 1128 511 A01 B01
   --1 115E --1 1110 3018 603 D05 4110 5114 G02 --9 F11 3210 111D 402 --1 1124 52C 401 32F 111C
   402 411 1132 32F 11C 404 112F C11 1177 404 1163 402 111F 401 3019B6 D0A 4040 1151A6 4116 518
   528 611 809 A015 B05 D0D E03 3048D --3 3012 322 3010 321 30C 321 303 321 301 --9 5230 5112C
   --14 5120 602 5112 618 511C 706 801 611 5258 --8 4117 504 515 502 516B 602 801 602 612 70C 60A
   611 703 901 B01 702 806 B02 C06 E02 C05 D04 G03 --2 E02 --1 E01 --1 E05 G03 --15 E03 D02 701
   612 601 515 412C D01 --3 52A --6 5038 --8 5145 901 --8 51C --6 521C 802 B02 5154 --B 511 521D
   --3 524E --1 52B --4 522 701F --1 5137 --9 51E --2 51A --2 514 521C 704 5243 --18 525 6117 --A
   606 --2 606 --2 606 --9 607 --1 607 --1 7030 804 702 C02 D04 --4 8050 522E --2 52A --6 202BA4
   --C 5217 --4 5231 --804 111A2E 612 323B 523 --2 416A --26 117 --C 115 --5 301 1119 --1 115 --1
   111 --1 112 --1 112 --1 116C 6010 E01 --10 1116D E010 1140 --2 1136 --7 E01 3120 11C 321 401
   E02 3210 41A --6 114 513 707 802 1115 322 402 11A --1 1113 --1 114 --4 113 321 111 --1 1187 --2
   111 --1 115E 322 115E --3 116 --2 116 --2 116 --2 113 --3 117 --1 117 --A 303 211 113 40C --1
   401A --1 4013 --1 402 --1 40F --2 40E --22 407B --5 403 --4 402D --3 409 414B 702 902 --1 51C
   D01 --3 701 --2F 512E --82 511D --3 5131 --F 701C --4 311F 701 314 --9 A03 311B --5 702B --5
   401E --1 401 4124 --4 41E --2A 3126 402 3126 4050 --2 40A --6 9024 --4 9024 --4 7028 --8 7034
   --B 701 E0B --1 E0F --1 E07 --1 E02 --1 E0B --1 E0F --1 E07 --1 E02 --3 G034 --C 70137 --9 7016
   --A 708 --18 E06 --1 E02A --1 E09 --45 406 --2 401 --1 402C --1 402 --3 401 --2 401 5216 --1
   529 703F --8 709 --30 8013 --1 802 --5 805 501A 522 --3 501 511A --5 511 --40 6138 --4 802 612
   8010 --2 802E 414 --1 412 --5 418 --1 413 --1 411B B02 --2 413 --4 419 B01 --7 419 --7 5220
   7020 --20 7027 --4 70C --9 5236 --3 521D --2 521B --5 528 7012 --7 704 --C 707 --50 5249 --37
   8033 --D 8033 --7 806 B028 --8 B0A --6 G026 --3 G01D --8 G02 --D0 521F --1 D02A --1 D03 --2 D02
   --10 G03 --37 G01 F03 B028 --8 B02A --16 E01A --26 D01C --14 C017 --9 604E --4 601E E06 --9 701
   5242 E01 --A B01 --2 6119 --7 61A --6 6135 --1 61E B03 D01 --8 7027 --9 6149 804 701 D02 61A
   701 805 --1 7014 --B 7012 --1 702B 901 F03 --3E 807 --1 801 --1 804 --1 80F --1 80B --6 703B
   --5 70A --6 801 703 --1 708 --2 702 --2 7016 --1 707 --1 702 --1 705 --1 B01 709 --2 702 --2
   703 --2 801 --6 701 --5 707 --2 707 --3 705 --B G0A --1 G01 --2 G01 --1 G026 --1 G0A --1 G01
   --2 G01 --1 G04 --1 G0A --1 G02 --8 G02 --1D 905A D01 901 --1 901 B01 C01 D02 --1E 7048 --8 70A
   --A6 7036 --2 7012 8014 --22 7045 --B 70A --6 90D --13 6138 C01 E01 --6 61A --6 G014 --1C 801A
   B01 --2 80F --4 8010 E07 --B9 B03C --64 7053 --C 701 D07 --2 D01 --2 D08 --1 D02 --1 D01E --1
   D02 --2 D0C --9 D0A --46 C08 --2 C02E --2 C0B --1B A048 --8 A034 C02 A017 B01 A05 --D E010 7039
   --7 F0A --B6 G022 --E G0A --6 909 --1 902D --1 90E --A 901D --3 9020 --2 9016 --1 90E --49 A07
   --1 A02 --1 A02C --3 A01 --1 A02 --1 A09 --8 A0A --6 B06 --1 B02 --1 B025 --1 B02 --1 B06 --7
   B0A --136 B019 --7 F011 --1 F029 --3 F01C G01 --55 D01 --F C032 --D C01 5036F 702A 801 --66
   5063 70C --1 504 701 --B 80C4 --A4C E063 --D 5242F F01 C09 F01D --A G0F9B --5 80247 --1AB9 G03A
   --6C6 60239 --7 701F --1 70A --4 702 E04F --1 E0A --6 701E --2 706 --A 7046 --A 70A --1 707 --1
   7015 --5 7013 --1B0 G03A --C6 B05B --65 6145 C06 --4 C01 612F C09 --7 6111 --40 901 A01 C02 D01
   --B D02 --E 9017ED B05 C06 --8 902F3 D01E3 --29 G01 D09 --22E7 E04 --1 E07 --1 E02 --1 602
   A011D E04 --F F01 --1D C03 --2 F01 --E C04 --8 A018C --904 706B --5 70D --3 709 --7 70A --2 708
   --F5C G0FA --6 G01B4 --4C E02E --2 E017 --9 E074 --3C 31F6 --A 3127 --2 511 31B4 80B E02 --15
   4146 --7A F014 --C B014 --C 4057 --9 5012 B07 --87 3155 --1 3147 --1 312 --2 311 --2 312 --2
   314 --1 31C --1 311 --1 314 401 312 --1 3141 --1 314 --2 318 --1 317 --1 311C --1 314 --1 315
   --1 311 --3 317 --1 31152 412 --2 31122 502 --2 3132 8028C --F 805 --1 80F --450 E01F --6 F06
   --D5 907 --1 9011 --2 907 --1 902 --1 905 --5 F03E --21 F01 --70 C02D --3 C0E --2 C0A --4 C02
   --140 E01F --11 C03A --5 C01 --1D0 F02A --D6 G02B --4 G01 --1E0 E07 --1 E04 --1 E02 --1 E0F --1
   70C5 --2 7010 --29 904B C01 --4 90A --4 902 --311 B044 --4C C03D --C2 614 --1 611B --1 612 --1
   611 --2 611 --1 61A --1 614 --1 611 --1 611 --6 611 --4 611 --1 611 --1 611 --1 613 --1 612 --1
   611 --2 611 --1 611 --1 611 --1 611 --1 611 --1 612 --1 611 --2 614 --1 617 --1 614 --1 614 --1
   611 --1 61A --1 6111 --5 613 --1 615 --1 6111 --34 612 --10E 512C --4 5164 --C 60F --2 60E 701
   --1 60F --1 60F 7016 --A 52B 702 D03 521F B01 601 521 60B 521 601 521 602 521 603 521 603 525
   608 521 607 521 60A 612 C01 D03 609 521 601 522 602 521 60A 524 602 521 60A 9012 D01 --38 601A
   521 602 --D 5222 609 901 --4 529 --7 602 --E A06 --9A 6021 70C 803 606 701 6046 701 802 6014
   70C 6025 701 605 704 805 70C 6011 707 808 603F 701 601 701 60B6 701 604 702 801 603E 702 614
   707 805 6018 7012 901 7029 901 7056 605 611 6010 611 603 611 601 611 601 611 601 611 603 611
   606 612 604 611 601 612 604 611 60C 702 802 60B 7030 6046 70A 801 902 A02 C01 D02 --4 F01 E03
   70D --3 704 903 A02 B01 C01 D02 --3 6074 F03 --4 F05 7055 B04 F01 --6 C0C --4 E01 --F 70C --4
   7038 --8 70A --6 7028 --8 701E --2 D02 G0A --4 G02 --3E A0C D01 C03 809 906 A01 908 A08 901 A02
   90C C01 90C A01 B03 90F A0D B05 C01 D01 B04 D02 E01 B01 C01 B04 805 90D A06 B0B D02 C06 D03 C02
   B0A C06 801 B02 C08 D01 E01 C03 A017 B019 C054 --C B0E --2 C04 D01 F03 C03 E02 --3 C03 D04 F02
   G01 --5 G01 C06 D013 E04 F03 D07 E04 F03 G01 F01 D03 E03 G01 --7 F02 D07 E03 F02 G01 --2 G01
   E08 F01 G01 --6 E07 F02 --7 D093 --1 D037 G025 D0A --404 202 31A6D7 D07 E02 --20 521035 E04 F01
   --6 60DE --2 801682 --E A01D31 --F F126E --9A2 3121E --5E0 202 D0134B --5 F01060 --DC4E 202
   --FFFE 202 --FFFE 202 --FFFE 202 --FFFE 202 --FFFE 202 --FFFE 202 --FFFE 202 --FFFE 202 --FFFE
   202 --FFFE 202 --1 311 --1E 3160 --80 40F0 --FE0E 2020002"

end FilterQuery.Unicode
