/-! Characters that are written as one, after version 14 of the character database. A mark behind a
letter may have a single character that stands for both, and so have the parts of a syllable block.
-/

set_option autoImplicit false

namespace Criteria.Text

/-- The characters that are composed with what stands before them, each with the intervals of the
characters that it is composed with. -/
def compositions : List (Nat × List (Nat × Nat)) :=
  [(768, [(65, 65), (69, 69), (73, 73), (78, 79), (85, 85), (87, 87), (89, 89), (97, 97),
      (101, 101), (105, 105), (110, 111), (117, 117), (119, 119), (121, 121), (194, 194),
      (202, 202), (212, 212), (220, 220), (226, 226), (234, 234), (244, 244), (252, 252),
      (258, 259), (274, 275), (332, 333), (416, 417), (431, 432), (913, 913), (917, 917),
      (919, 919), (921, 921), (927, 927), (933, 933), (937, 937), (945, 945), (949, 949),
      (951, 951), (953, 953), (959, 959), (965, 965), (969, 971), (1045, 1045), (1048, 1048),
      (1077, 1077), (1080, 1080), (7936, 7937), (7944, 7945), (7952, 7953), (7960, 7961),
      (7968, 7969), (7976, 7977), (7984, 7985), (7992, 7993), (8000, 8001), (8008, 8009),
      (8016, 8017), (8025, 8025), (8032, 8033), (8040, 8041)]),
   (769, [(65, 65), (67, 67), (69, 69), (71, 71), (73, 73), (75, 80), (82, 83), (85, 85),
      (87, 87), (89, 90), (97, 97), (99, 99), (101, 101), (103, 103), (105, 105), (107, 112),
      (114, 115), (117, 117), (119, 119), (121, 122), (194, 194), (197, 199), (202, 202),
      (207, 207), (212, 213), (216, 216), (220, 220), (226, 226), (229, 231), (234, 234),
      (239, 239), (244, 245), (248, 248), (252, 252), (258, 259), (274, 275), (332, 333),
      (360, 361), (416, 417), (431, 432), (913, 913), (917, 917), (919, 919), (921, 921),
      (927, 927), (933, 933), (937, 937), (945, 945), (949, 949), (951, 951), (953, 953),
      (959, 959), (965, 965), (969, 971), (978, 978), (1043, 1043), (1050, 1050), (1075, 1075),
      (1082, 1082), (7936, 7937), (7944, 7945), (7952, 7953), (7960, 7961), (7968, 7969),
      (7976, 7977), (7984, 7985), (7992, 7993), (8000, 8001), (8008, 8009), (8016, 8017),
      (8025, 8025), (8032, 8033), (8040, 8041)]),
   (770, [(65, 65), (67, 67), (69, 69), (71, 74), (79, 79), (83, 83), (85, 85), (87, 87),
      (89, 90), (97, 97), (99, 99), (101, 101), (103, 106), (111, 111), (115, 115), (117, 117),
      (119, 119), (121, 122), (7840, 7841), (7864, 7865), (7884, 7885)]),
   (771, [(65, 65), (69, 69), (73, 73), (78, 79), (85, 86), (89, 89), (97, 97), (101, 101),
      (105, 105), (110, 111), (117, 118), (121, 121), (194, 194), (202, 202), (212, 212),
      (226, 226), (234, 234), (244, 244), (258, 259), (416, 417), (431, 432)]),
   (772, [(65, 65), (69, 69), (71, 71), (73, 73), (79, 79), (85, 85), (89, 89), (97, 97),
      (101, 101), (103, 103), (105, 105), (111, 111), (117, 117), (121, 121), (196, 196),
      (198, 198), (213, 214), (220, 220), (228, 228), (230, 230), (245, 246), (252, 252),
      (490, 491), (550, 551), (558, 559), (913, 913), (921, 921), (933, 933), (945, 945),
      (953, 953), (965, 965), (1048, 1048), (1059, 1059), (1080, 1080), (1091, 1091),
      (7734, 7735), (7770, 7771)]),
   (774, [(65, 65), (69, 69), (71, 71), (73, 73), (79, 79), (85, 85), (97, 97), (101, 101),
      (103, 103), (105, 105), (111, 111), (117, 117), (552, 553), (913, 913), (921, 921),
      (933, 933), (945, 945), (953, 953), (965, 965), (1040, 1040), (1045, 1046), (1048, 1048),
      (1059, 1059), (1072, 1072), (1077, 1078), (1080, 1080), (1091, 1091), (7840, 7841)]),
   (775, [(65, 73), (77, 80), (82, 84), (87, 90), (97, 104), (109, 112), (114, 116), (119, 122),
      (346, 347), (352, 353), (383, 383), (7778, 7779)]),
   (776, [(65, 65), (69, 69), (72, 73), (79, 79), (85, 85), (87, 89), (97, 97), (101, 101),
      (104, 105), (111, 111), (116, 117), (119, 121), (213, 213), (245, 245), (362, 363),
      (921, 921), (933, 933), (953, 953), (965, 965), (978, 978), (1030, 1030), (1040, 1040),
      (1045, 1048), (1054, 1054), (1059, 1059), (1063, 1063), (1067, 1067), (1069, 1069),
      (1072, 1072), (1077, 1080), (1086, 1086), (1091, 1091), (1095, 1095), (1099, 1099),
      (1101, 1101), (1110, 1110), (1240, 1241), (1256, 1257)]),
   (777, [(65, 65), (69, 69), (73, 73), (79, 79), (85, 85), (89, 89), (97, 97), (101, 101),
      (105, 105), (111, 111), (117, 117), (121, 121), (194, 194), (202, 202), (212, 212),
      (226, 226), (234, 234), (244, 244), (258, 259), (416, 417), (431, 432)]),
   (778, [(65, 65), (85, 85), (97, 97), (117, 117), (119, 119), (121, 121)]),
   (779, [(79, 79), (85, 85), (111, 111), (117, 117), (1059, 1059), (1091, 1091)]),
   (780, [(65, 65), (67, 69), (71, 73), (75, 76), (78, 79), (82, 85), (90, 90), (97, 97),
      (99, 101), (103, 108), (110, 111), (114, 117), (122, 122), (220, 220), (252, 252),
      (439, 439), (658, 658)]),
   (783, [(65, 65), (69, 69), (73, 73), (79, 79), (82, 82), (85, 85), (97, 97), (101, 101),
      (105, 105), (111, 111), (114, 114), (117, 117), (1140, 1141)]),
   (785, [(65, 65), (69, 69), (73, 73), (79, 79), (82, 82), (85, 85), (97, 97), (101, 101),
      (105, 105), (111, 111), (114, 114), (117, 117)]),
   (787, [(913, 913), (917, 917), (919, 919), (921, 921), (927, 927), (937, 937), (945, 945),
      (949, 949), (951, 951), (953, 953), (959, 959), (961, 961), (965, 965), (969, 969)]),
   (788, [(913, 913), (917, 917), (919, 919), (921, 921), (927, 927), (929, 929), (933, 933),
      (937, 937), (945, 945), (949, 949), (951, 951), (953, 953), (959, 959), (961, 961),
      (965, 965), (969, 969)]),
   (795, [(79, 79), (85, 85), (111, 111), (117, 117)]),
   (803, [(65, 66), (68, 69), (72, 73), (75, 79), (82, 87), (89, 90), (97, 98), (100, 101),
      (104, 105), (107, 111), (114, 119), (121, 122), (416, 417), (431, 432)]),
   (804, [(85, 85), (117, 117)]),
   (805, [(65, 65), (97, 97)]),
   (806, [(83, 84), (115, 116)]),
   (807, [(67, 69), (71, 72), (75, 76), (78, 78), (82, 84), (99, 101), (103, 104), (107, 108),
      (110, 110), (114, 116)]),
   (808, [(65, 65), (69, 69), (73, 73), (79, 79), (85, 85), (97, 97), (101, 101), (105, 105),
      (111, 111), (117, 117)]),
   (813, [(68, 69), (76, 76), (78, 78), (84, 85), (100, 101), (108, 108), (110, 110), (116, 117)]),
   (814, [(72, 72), (104, 104)]),
   (816, [(69, 69), (73, 73), (85, 85), (101, 101), (105, 105), (117, 117)]),
   (817, [(66, 66), (68, 68), (75, 76), (78, 78), (82, 82), (84, 84), (90, 90), (98, 98),
      (100, 100), (104, 104), (107, 108), (110, 110), (114, 114), (116, 116), (122, 122)]),
   (834, [(945, 945), (951, 951), (953, 953), (965, 965), (969, 971), (7936, 7937), (7944, 7945),
      (7968, 7969), (7976, 7977), (7984, 7985), (7992, 7993), (8016, 8017), (8025, 8025),
      (8032, 8033), (8040, 8041)]),
   (837, [(913, 913), (919, 919), (937, 937), (940, 940), (942, 942), (945, 945), (951, 951),
      (969, 969), (974, 974), (7936, 7951), (7968, 7983), (8032, 8048), (8052, 8052),
      (8060, 8060), (8118, 8118), (8134, 8134), (8182, 8182)]),
   (1619, [(1575, 1575)]),
   (1620, [(1575, 1575), (1608, 1608), (1610, 1610), (1729, 1729), (1746, 1746), (1749, 1749)]),
   (1621, [(1575, 1575)]),
   (2364, [(2344, 2344), (2352, 2352), (2355, 2355)]),
   (3031, [(2962, 2962)]),
   (4142, [(4133, 4133)]),
   (6965, [(6917, 6917), (6919, 6919), (6921, 6921), (6923, 6923), (6925, 6925), (6929, 6929)]),
   (12441, [(12358, 12358), (12363, 12363), (12365, 12365), (12367, 12367), (12369, 12369),
      (12371, 12371), (12373, 12373), (12375, 12375), (12377, 12377), (12379, 12379),
      (12381, 12381), (12383, 12383), (12385, 12385), (12388, 12388), (12390, 12390),
      (12392, 12392), (12399, 12399), (12402, 12402), (12405, 12405), (12408, 12408),
      (12411, 12411), (12445, 12445), (12454, 12454), (12459, 12459), (12461, 12461),
      (12463, 12463), (12465, 12465), (12467, 12467), (12469, 12469), (12471, 12471),
      (12473, 12473), (12475, 12475), (12477, 12477), (12479, 12479), (12481, 12481),
      (12484, 12484), (12486, 12486), (12488, 12488), (12495, 12495), (12498, 12498),
      (12501, 12501), (12504, 12504), (12507, 12507), (12527, 12530), (12541, 12541)]),
   (12442, [(12399, 12399), (12402, 12402), (12405, 12405), (12408, 12408), (12411, 12411),
      (12495, 12495), (12498, 12498), (12501, 12501), (12504, 12504), (12507, 12507)]),
   (69818, [(69785, 69785), (69787, 69787), (69797, 69797)])]

def syllableStep : Nat := 28

def firstSyllable : Nat := 0xac00

def lastSyllable : Nat := 0xd7a3

def makesSyllable (a b : Nat) : Bool :=
  (0x1100 ≤ a && a ≤ 0x1112 && 0x1161 ≤ b && b ≤ 0x1175) ||
  (firstSyllable ≤ a && a ≤ lastSyllable && (a - firstSyllable) % syllableStep = 0 &&
    0x11a8 ≤ b && b ≤ 0x11c2)

def composed (a b : Char) : Bool :=
  makesSyllable a.toNat b.toNat ||
    match compositions.lookup b.toNat with
    | some firsts => firsts.any fun r => r.1 ≤ a.toNat && a.toNat ≤ r.2
    | none => false

def holdsComposed (cs : List Char) : Bool := (cs.zip cs.tail).any fun p => composed p.1 p.2

end Criteria.Text
