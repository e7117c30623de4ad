import DocPress.Text.CharClass
import DocPress.Text.LowerCase

/-!
# ASCII forms

A letter with marks decomposes into an ASCII letter and the marks; ligatures,
superscripts and letters of special shapes decompose into what they are made of.
The ASCII form of a text keeps the letters, digits, low lines, hyphens and spaces
of its decomposition, and nothing else above ASCII.

Main results:

- `asciiForm_of_ascii`: an ASCII text is its own ASCII form.
-/

namespace DocPress.Text

/-- Runs of characters whose ASCII forms have one character each: the first code
point and the forms. -/
def singleForms : List (Nat × String) :=
  [(160, " "), (168, " "), (170, "a"), (175, " "), (178, "23 "), (184, " 1o"), (192, "AAAAAA"),
    (199, "CEEEEIIII"), (209, "NOOOOO"), (217, "UUUUY"), (224, "aaaaaa"), (231, "ceeeeiiii"),
    (241, "nooooo"), (249, "uuuuy"), (255, "yAaAaAaCcCcCcCcDd"), (274, "EeEeEeEeEeGgGgGgGgHh"),
    (296, "IiIiIiIiI"), (308, "JjKk"), (313, "LlLlLlLl"), (323, "NnNnNnn"), (332, "OoOoOo"),
    (340, "RrRrRrSsSsSsSsTtTt"), (360, "UuUuUuUuUuUuWwYyYZzZzZzs"), (416, "Oo"), (431, "Uu"),
    (461, "AaIiOoUuUuUuUuUu"), (478, "AaAa"), (486, "GgKkOoOo"), (496, "j"), (500, "Gg"),
    (504, "NnAa"), (512, "AaAaEeEeIiIiOoOoRrRrUuUuSsTt"), (542, "Hh"), (550, "AaEeOoOoOoOoYy"),
    (688, "h"), (690, "jr"), (695, "wy"), (728, "      "), (737, "lsx"), (890, " "), (900, "  "),
    (7468, "A"), (7470, "B"), (7472, "DE"), (7475, "GHIJKLMN"), (7484, "O"), (7486, "PRTUWa"),
    (7495, "bde"), (7501, "g"), (7503, "km"), (7506, "o"), (7510, "ptu"), (7515, "v"),
    (7522, "iruv"), (7580, "c"), (7584, "f"), (7611, "z"),
    (7680, "AaBbBbBbCcDdDdDdDdDdEeEeEeEeEeFfGgHhHhHhHhHhIiIiKkKkKkLlLlLlLlMmMmMmNnNnNnNnOoOo"),
    (7760, "OoOoPpPpRrRrRrRrSsSsSsSsSsTtTtTtTtUuUuUuUuUuVvVvWwWwWwWwWwXxXxYyZzZzZzhtwyas"),
    (7840, "AaAaAaAaAaAaAaAaAaAaAaAaEeEeEeEeEeEeEeEeIiIiOoOoOoOoOoOoOoOoOoOoOoOoUuUuUuUuUuUu"),
    (7920, "UuYyYyYyYy"),
    (8125, " "), (8127, "   "), (8141, "   "), (8157, "   "), (8173, "  "), (8189, "  "),
    (8192, "           "), (8215, " "), (8239, " "), (8254, " "), (8287, " "), (8304, "0i"),
    (8308, "456789"), (8319, "n0123456789"), (8336, "aeox"), (8341, "hklmnpst"), (8450, "CC"),
    (8457, "FgHHHh"), (8464, "IILl"), (8469, "N"), (8473, "PQRRR"), (8484, "Z"), (8488, "Z"),
    (8490, "KABC"), (8495, "eEF"), (8499, "Mo"), (8505, "i"), (8517, "Ddeij"), (8543, "1I"),
    (8548, "V"), (8553, "X"), (8556, "LCDMi"), (8564, "v"), (8569, "x"), (8572, "lcdm"),
    (9312, "123456789"), (9332, "123456789"), (9352, "123456789"),
    (9372, "abcdefghijklmnopqrstuvwxyzABCDEFGHIJKLMNOPQRSTUVWXYZabcdefghijklmnopqrstuvwxyz0"),
    (11388, "jV"), (12288, " "), (12443, "  "), (12992, "123456789"), (13144, "0123456789"),
    (13186, "A"), (13196, "Fg"), (13205, "l"), (13211, "m"), (13234, "s"), (13238, "V"),
    (13244, "W"), (13248, "kM"), (13280, "123456789"), (42994, "CFQ"), (64606, "      "),
    (65019, " "), (65075, "__"), (65097, "    ___"), (65123, "-"), (65136, " "), (65138, " "),
    (65140, " "), (65142, " "), (65144, " "), (65146, " "), (65148, " "), (65150, " "),
    (65293, "-"), (65296, "0123456789"), (65313, "ABCDEFGHIJKLMNOPQRSTUVWXYZ"), (65343, "_"),
    (65345, "abcdefghijklmnopqrstuvwxyz"), (65507, " "), (67493, "q"),
    (119808, "ABCDEFGHIJKLMNOPQRSTUVWXYZabcdefghijklmnopqrstuvwxyzABCDEFGHIJKLMNOPQRSTUVWXYZab"),
    (119888, "cdefg"),
    (119894, "ijklmnopqrstuvwxyzABCDEFGHIJKLMNOPQRSTUVWXYZabcdefghijklmnopqrstuvwxyzA"),
    (119966, "CD"), (119970, "G"), (119973, "JK"), (119977, "NOPQ"), (119982, "STUVWXYZabcd"),
    (119995, "f"), (119997, "hijklmn"),
    (120005, "pqrstuvwxyzABCDEFGHIJKLMNOPQRSTUVWXYZabcdefghijklmnopqrstuvwxyzAB"),
    (120071, "DEFG"), (120077, "JKLMNOPQ"), (120086, "STUVWXY"),
    (120094, "abcdefghijklmnopqrstuvwxyzAB"), (120123, "DEFG"), (120128, "IJKLM"), (120134, "O"),
    (120138, "STUVWXY"),
    (120146, "abcdefghijklmnopqrstuvwxyzABCDEFGHIJKLMNOPQRSTUVWXYZabcdefghijklmnopqrstuvwxyzAB"),
    (120226, "CDEFGHIJKLMNOPQRSTUVWXYZabcdefghijklmnopqrstuvwxyzABCDEFGHIJKLMNOPQRSTUVWXYZabcd"),
    (120306, "efghijklmnopqrstuvwxyzABCDEFGHIJKLMNOPQRSTUVWXYZabcdefghijklmnopqrstuvwxyzABCDEF"),
    (120386, "GHIJKLMNOPQRSTUVWXYZabcdefghijklmnopqrstuvwxyzABCDEFGHIJKLMNOPQRSTUVWXYZabcdefgh"),
    (120466, "ijklmnopqrstuvwxyz"),
    (120782, "01234567890123456789012345678901234567890123456789"), (127232, "00123456789"),
    (127248, "ABCDEFGHIJKLMNOPQRSTUVWXYZSCR"), (127280, "ABCDEFGHIJKLMNOPQRSTUVWXYZ"),
    (130032, "0123456789")]

/-- The other characters that have an ASCII form. -/
def longForms : List (Nat × String) :=
  [(188, "14"), (189, "12"), (190, "34"), (306, "IJ"), (307, "ij"), (452, "DZ"), (453, "Dz"),
    (454, "dz"), (455, "LJ"), (456, "Lj"), (457, "lj"), (458, "NJ"), (459, "Nj"), (460, "nj"),
    (497, "DZ"), (498, "Dz"), (499, "dz"), (8360, "Rs"), (8448, "ac"), (8449, "as"),
    (8453, "co"), (8454, "cu"), (8470, "No"), (8480, "SM"), (8481, "TEL"), (8482, "TM"),
    (8507, "FAX"), (8528, "17"), (8529, "19"), (8530, "110"), (8531, "13"), (8532, "23"),
    (8533, "15"), (8534, "25"), (8535, "35"), (8536, "45"), (8537, "16"), (8538, "56"),
    (8539, "18"), (8540, "38"), (8541, "58"), (8542, "78"), (8545, "II"), (8546, "III"),
    (8547, "IV"), (8549, "VI"), (8550, "VII"), (8551, "VIII"), (8552, "IX"), (8554, "XI"),
    (8555, "XII"), (8561, "ii"), (8562, "iii"), (8563, "iv"), (8565, "vi"), (8566, "vii"),
    (8567, "viii"), (8568, "ix"), (8570, "xi"), (8571, "xii"), (8585, "03"), (9321, "10"),
    (9322, "11"), (9323, "12"), (9324, "13"), (9325, "14"), (9326, "15"), (9327, "16"),
    (9328, "17"), (9329, "18"), (9330, "19"), (9331, "20"), (9341, "10"), (9342, "11"),
    (9343, "12"), (9344, "13"), (9345, "14"), (9346, "15"), (9347, "16"), (9348, "17"),
    (9349, "18"), (9350, "19"), (9351, "20"), (9361, "10"), (9362, "11"), (9363, "12"),
    (9364, "13"), (9365, "14"), (9366, "15"), (9367, "16"), (9368, "17"), (9369, "18"),
    (9370, "19"), (9371, "20"), (12880, "PTE"), (12881, "21"), (12882, "22"), (12883, "23"),
    (12884, "24"), (12885, "25"), (12886, "26"), (12887, "27"), (12888, "28"), (12889, "29"),
    (12890, "30"), (12891, "31"), (12892, "32"), (12893, "33"), (12894, "34"), (12895, "35"),
    (12977, "36"), (12978, "37"), (12979, "38"), (12980, "39"), (12981, "40"), (12982, "41"),
    (12983, "42"), (12984, "43"), (12985, "44"), (12986, "45"), (12987, "46"), (12988, "47"),
    (12989, "48"), (12990, "49"), (12991, "50"), (13001, "10"), (13002, "11"), (13003, "12"),
    (13004, "Hg"), (13005, "erg"), (13006, "eV"), (13007, "LTD"), (13154, "10"), (13155, "11"),
    (13156, "12"), (13157, "13"), (13158, "14"), (13159, "15"), (13160, "16"), (13161, "17"),
    (13162, "18"), (13163, "19"), (13164, "20"), (13165, "21"), (13166, "22"), (13167, "23"),
    (13168, "24"), (13169, "hPa"), (13170, "da"), (13171, "AU"), (13172, "bar"), (13173, "oV"),
    (13174, "pc"), (13175, "dm"), (13176, "dm2"), (13177, "dm3"), (13178, "IU"), (13184, "pA"),
    (13185, "nA"), (13187, "mA"), (13188, "kA"), (13189, "KB"), (13190, "MB"), (13191, "GB"),
    (13192, "cal"), (13193, "kcal"), (13194, "pF"), (13195, "nF"), (13198, "mg"), (13199, "kg"),
    (13200, "Hz"), (13201, "kHz"), (13202, "MHz"), (13203, "GHz"), (13204, "THz"), (13206, "ml"),
    (13207, "dl"), (13208, "kl"), (13209, "fm"), (13210, "nm"), (13212, "mm"), (13213, "cm"),
    (13214, "km"), (13215, "mm2"), (13216, "cm2"), (13217, "m2"), (13218, "km2"), (13219, "mm3"),
    (13220, "cm3"), (13221, "m3"), (13222, "km3"), (13223, "ms"), (13224, "ms2"), (13225, "Pa"),
    (13226, "kPa"), (13227, "MPa"), (13228, "GPa"), (13229, "rad"), (13230, "rads"),
    (13231, "rads2"), (13232, "ps"), (13233, "ns"), (13235, "ms"), (13236, "pV"), (13237, "nV"),
    (13239, "mV"), (13240, "kV"), (13241, "MV"), (13242, "pW"), (13243, "nW"), (13245, "mW"),
    (13246, "kW"), (13247, "MW"), (13250, "am"), (13251, "Bq"), (13252, "cc"), (13253, "cd"),
    (13254, "Ckg"), (13255, "Co"), (13256, "dB"), (13257, "Gy"), (13258, "ha"), (13259, "HP"),
    (13260, "in"), (13261, "KK"), (13262, "KM"), (13263, "kt"), (13264, "lm"), (13265, "ln"),
    (13266, "log"), (13267, "lx"), (13268, "mb"), (13269, "mil"), (13270, "mol"), (13271, "PH"),
    (13272, "pm"), (13273, "PPM"), (13274, "PR"), (13275, "sr"), (13276, "Sv"), (13277, "Wb"),
    (13278, "Vm"), (13279, "Am"), (13289, "10"), (13290, "11"), (13291, "12"), (13292, "13"),
    (13293, "14"), (13294, "15"), (13295, "16"), (13296, "17"), (13297, "18"), (13298, "19"),
    (13299, "20"), (13300, "21"), (13301, "22"), (13302, "23"), (13303, "24"), (13304, "25"),
    (13305, "26"), (13306, "27"), (13307, "28"), (13308, "29"), (13309, "30"), (13310, "31"),
    (13311, "gal"), (64256, "ff"), (64257, "fi"), (64258, "fl"), (64259, "ffi"), (64260, "ffl"),
    (64261, "st"), (64262, "st"), (65018, "   "), (127277, "CD"), (127278, "WZ"), (127306, "HV"),
    (127307, "MV"), (127308, "SD"), (127309, "SS"), (127310, "PPV"), (127311, "WC"),
    (127338, "MC"), (127339, "MD"), (127340, "MR"), (127376, "DJ")]

/-- The ASCII form of a character above ASCII. -/
def formAbove (n : Nat) : List Char :=
  match longForms.lookup n with
  | some form => form.toList
  | none =>
    singleForms.foldr (fun run rest =>
      if run.1 ≤ n then (run.2.toList.drop (n - run.1)).take 1 ++ rest else rest) []

/-- The ASCII form of a character. -/
def asciiFormOf (c : Char) : List Char :=
  if c.toNat < 128 then [c] else formAbove c.toNat

/-- The ASCII form of a text. -/
def asciiForm (text : List Char) : List Char :=
  text.flatMap asciiFormOf

/-- An ASCII text is its own ASCII form. -/
theorem asciiForm_of_ascii {text : List Char} (h : ∀ c ∈ text, c.toNat < 128) :
    asciiForm text = text := by
  induction text with
  | nil => rfl
  | cons c rest ih =>
    have hr := ih fun d hd => h d (List.mem_cons_of_mem _ hd)
    have hc : asciiFormOf c = [c] := by simp [asciiFormOf, h c (List.mem_cons_self ..)]
    simp only [asciiForm] at hr
    simp [asciiForm, hc, hr]

end DocPress.Text
