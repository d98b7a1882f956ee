import StepForge.Text.Basic
import StepForge.Text.Run

/-!
# `StepForge.Text.Deburr` — Latin letters without their accents

The letters of the Latin-1 Supplement and Latin Extended-A blocks lose their accents and ligatures, and
combining marks are dropped; other scripts are kept.

## Contents
- `plainLatin?` — the plain spelling of an accented Latin letter.
- `isCombining` — marks written over or under another letter.
- `deburr` — a text without accents.
-/

namespace StepForge.Text

/-- The letters of the two blocks with their plain spellings. -/
def plainLatin : List (Nat × Text) :=
  [(192, [65]), (193, [65]), (194, [65]), (195, [65]), (196, [65]), (197, [65]), (198, [65, 101]),
   (199, [67]), (200, [69]), (201, [69]), (202, [69]), (203, [69]), (204, [73]), (205, [73]),
   (206, [73]), (207, [73]), (208, [68]), (209, [78]), (210, [79]), (211, [79]), (212, [79]),
   (213, [79]), (214, [79]), (216, [79]), (217, [85]), (218, [85]), (219, [85]), (220, [85]),
   (221, [89]), (222, [84, 104]), (223, [115, 115]), (224, [97]), (225, [97]), (226, [97]),
   (227, [97]), (228, [97]), (229, [97]), (230, [97, 101]), (231, [99]), (232, [101]), (233, [101]),
   (234, [101]), (235, [101]), (236, [105]), (237, [105]), (238, [105]), (239, [105]), (240, [100]),
   (241, [110]), (242, [111]), (243, [111]), (244, [111]), (245, [111]), (246, [111]), (248, [111]),
   (249, [117]), (250, [117]), (251, [117]), (252, [117]), (253, [121]), (254, [116, 104]),
   (255, [121]), (256, [65]), (257, [97]), (258, [65]), (259, [97]), (260, [65]), (261, [97]),
   (262, [67]), (263, [99]), (264, [67]), (265, [99]), (266, [67]), (267, [99]), (268, [67]),
   (269, [99]), (270, [68]), (271, [100]), (272, [68]), (273, [100]), (274, [69]), (275, [101]),
   (276, [69]), (277, [101]), (278, [69]), (279, [101]), (280, [69]), (281, [101]), (282, [69]),
   (283, [101]), (284, [71]), (285, [103]), (286, [71]), (287, [103]), (288, [71]), (289, [103]),
   (290, [71]), (291, [103]), (292, [72]), (293, [104]), (294, [72]), (295, [104]), (296, [73]),
   (297, [105]), (298, [73]), (299, [105]), (300, [73]), (301, [105]), (302, [73]), (303, [105]),
   (304, [73]), (305, [105]), (306, [73, 74]), (307, [105, 106]), (308, [74]), (309, [106]),
   (310, [75]), (311, [107]), (312, [312]), (313, [76]), (314, [108]), (315, [76]), (316, [108]),
   (317, [76]), (318, [108]), (319, [76]), (320, [108]), (321, [76]), (322, [108]), (323, [78]),
   (324, [110]), (325, [78]), (326, [110]), (327, [78]), (328, [110]), (329, [110]), (330, [78]),
   (331, [110]), (332, [79]), (333, [111]), (334, [79]), (335, [111]), (336, [79]), (337, [111]),
   (338, [79, 101]), (339, [111, 101]), (340, [82]), (341, [114]), (342, [82]), (343, [114]),
   (344, [82]), (345, [114]), (346, [83]), (347, [115]), (348, [83]), (349, [115]), (350, [83]),
   (351, [115]), (352, [83]), (353, [115]), (354, [84]), (355, [116]), (356, [84]), (357, [116]),
   (358, [84]), (359, [116]), (360, [85]), (361, [117]), (362, [85]), (363, [117]), (364, [85]),
   (365, [117]), (366, [85]), (367, [117]), (368, [85]), (369, [117]), (370, [85]), (371, [117]),
   (372, [87]), (373, [119]), (374, [89]), (375, [121]), (376, [89]), (377, [90]), (378, [122]),
   (379, [90]), (380, [122]), (381, [90]), (382, [122]), (383, [115])]

/-- The plain spelling of a letter of the two Latin blocks. -/
def plainLatin? (c : CodePoint) : Option Text := (plainLatin.find? fun row => row.1 == c).map (·.2)

/-- Whether the code point is a combining mark: a diacritic, a half mark or a mark for symbols. -/
def isCombining (c : CodePoint) : Bool :=
  (0x300 ≤ c && c ≤ 0x36F) || (0xFE20 ≤ c && c ≤ 0xFE2F) || (0x20D0 ≤ c && c ≤ 0x20FF)

/-- The text with plain Latin letters and without combining marks. -/
def deburr (t : Text) : Text :=
  (t.flatMap fun c => (plainLatin? c).getD [c]).filter fun c => !isCombining c

end StepForge.Text
