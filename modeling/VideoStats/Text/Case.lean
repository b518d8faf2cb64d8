
namespace VideoStats.Text

structure CaseRun where
  lo : Nat
  hi : Nat
  shift : Int
  step : Nat

def CaseRun.image? (r : CaseRun) (n : Nat) : Option Nat :=
  if r.lo ≤ n ∧ n ≤ r.hi ∧ (n - r.lo) % r.step = 0 then some (n + r.shift).toNat else none

def mapByRuns (rs : List CaseRun) (n : Nat) : Option Nat :=
  rs.findSome? fun r => r.image? n

def lowerRuns : List CaseRun := [
  ⟨65, 90, 32, 1⟩, ⟨192, 214, 32, 1⟩, ⟨216, 222, 32, 1⟩, ⟨256, 302, 1, 2⟩,
  ⟨306, 310, 1, 2⟩, ⟨313, 327, 1, 2⟩, ⟨330, 374, 1, 2⟩, ⟨376, 376, -121, 1⟩,
  ⟨377, 381, 1, 2⟩, ⟨385, 385, 210, 1⟩, ⟨386, 388, 1, 2⟩, ⟨390, 390, 206, 1⟩,
  ⟨391, 391, 1, 1⟩, ⟨393, 394, 205, 1⟩, ⟨395, 395, 1, 1⟩, ⟨398, 398, 79, 1⟩,
  ⟨399, 399, 202, 1⟩, ⟨400, 400, 203, 1⟩, ⟨401, 401, 1, 1⟩, ⟨403, 403, 205, 1⟩,
  ⟨404, 404, 207, 1⟩, ⟨406, 406, 211, 1⟩, ⟨407, 407, 209, 1⟩, ⟨408, 408, 1, 1⟩,
  ⟨412, 412, 211, 1⟩, ⟨413, 413, 213, 1⟩, ⟨415, 415, 214, 1⟩, ⟨416, 420, 1, 2⟩,
  ⟨422, 422, 218, 1⟩, ⟨423, 423, 1, 1⟩, ⟨425, 425, 218, 1⟩, ⟨428, 428, 1, 1⟩,
  ⟨430, 430, 218, 1⟩, ⟨431, 431, 1, 1⟩, ⟨433, 434, 217, 1⟩, ⟨435, 437, 1, 2⟩,
  ⟨439, 439, 219, 1⟩, ⟨440, 440, 1, 1⟩, ⟨444, 444, 1, 1⟩, ⟨452, 452, 2, 1⟩,
  ⟨453, 453, 1, 1⟩, ⟨455, 455, 2, 1⟩, ⟨456, 456, 1, 1⟩, ⟨458, 458, 2, 1⟩,
  ⟨459, 475, 1, 2⟩, ⟨478, 494, 1, 2⟩, ⟨497, 497, 2, 1⟩, ⟨498, 500, 1, 2⟩,
  ⟨502, 502, -97, 1⟩, ⟨503, 503, -56, 1⟩, ⟨504, 542, 1, 2⟩, ⟨544, 544, -130, 1⟩,
  ⟨546, 562, 1, 2⟩, ⟨570, 570, 10795, 1⟩, ⟨571, 571, 1, 1⟩, ⟨573, 573, -163, 1⟩,
  ⟨574, 574, 10792, 1⟩, ⟨577, 577, 1, 1⟩, ⟨579, 579, -195, 1⟩, ⟨580, 580, 69, 1⟩,
  ⟨581, 581, 71, 1⟩, ⟨582, 590, 1, 2⟩, ⟨880, 882, 1, 2⟩, ⟨886, 886, 1, 1⟩,
  ⟨895, 895, 116, 1⟩, ⟨902, 902, 38, 1⟩, ⟨904, 906, 37, 1⟩, ⟨908, 908, 64, 1⟩,
  ⟨910, 911, 63, 1⟩, ⟨913, 929, 32, 1⟩, ⟨931, 939, 32, 1⟩, ⟨975, 975, 8, 1⟩,
  ⟨984, 1006, 1, 2⟩, ⟨1012, 1012, -60, 1⟩, ⟨1015, 1015, 1, 1⟩, ⟨1017, 1017, -7, 1⟩,
  ⟨1018, 1018, 1, 1⟩, ⟨1021, 1023, -130, 1⟩, ⟨1024, 1039, 80, 1⟩, ⟨1040, 1071, 32, 1⟩,
  ⟨1120, 1152, 1, 2⟩, ⟨1162, 1214, 1, 2⟩, ⟨1216, 1216, 15, 1⟩, ⟨1217, 1229, 1, 2⟩,
  ⟨1232, 1326, 1, 2⟩, ⟨1329, 1366, 48, 1⟩, ⟨4256, 4293, 7264, 1⟩, ⟨4295, 4295, 7264, 1⟩,
  ⟨4301, 4301, 7264, 1⟩, ⟨5024, 5103, 38864, 1⟩, ⟨5104, 5109, 8, 1⟩, ⟨7312, 7354, -3008, 1⟩,
  ⟨7357, 7359, -3008, 1⟩, ⟨7680, 7828, 1, 2⟩, ⟨7838, 7838, -7615, 1⟩, ⟨7840, 7934, 1, 2⟩,
  ⟨7944, 7951, -8, 1⟩, ⟨7960, 7965, -8, 1⟩, ⟨7976, 7983, -8, 1⟩, ⟨7992, 7999, -8, 1⟩,
  ⟨8008, 8013, -8, 1⟩, ⟨8025, 8031, -8, 2⟩, ⟨8040, 8047, -8, 1⟩, ⟨8072, 8079, -8, 1⟩,
  ⟨8088, 8095, -8, 1⟩, ⟨8104, 8111, -8, 1⟩, ⟨8120, 8121, -8, 1⟩, ⟨8122, 8123, -74, 1⟩,
  ⟨8124, 8124, -9, 1⟩, ⟨8136, 8139, -86, 1⟩, ⟨8140, 8140, -9, 1⟩, ⟨8152, 8153, -8, 1⟩,
  ⟨8154, 8155, -100, 1⟩, ⟨8168, 8169, -8, 1⟩, ⟨8170, 8171, -112, 1⟩, ⟨8172, 8172, -7, 1⟩,
  ⟨8184, 8185, -128, 1⟩, ⟨8186, 8187, -126, 1⟩, ⟨8188, 8188, -9, 1⟩, ⟨8486, 8486, -7517, 1⟩,
  ⟨8490, 8490, -8383, 1⟩, ⟨8491, 8491, -8262, 1⟩, ⟨8498, 8498, 28, 1⟩, ⟨8544, 8559, 16, 1⟩,
  ⟨8579, 8579, 1, 1⟩, ⟨9398, 9423, 26, 1⟩, ⟨11264, 11311, 48, 1⟩, ⟨11360, 11360, 1, 1⟩,
  ⟨11362, 11362, -10743, 1⟩, ⟨11363, 11363, -3814, 1⟩, ⟨11364, 11364, -10727, 1⟩, ⟨11367, 11371, 1, 2⟩,
  ⟨11373, 11373, -10780, 1⟩, ⟨11374, 11374, -10749, 1⟩, ⟨11375, 11375, -10783, 1⟩, ⟨11376, 11376, -10782, 1⟩,
  ⟨11378, 11378, 1, 1⟩, ⟨11381, 11381, 1, 1⟩, ⟨11390, 11391, -10815, 1⟩, ⟨11392, 11490, 1, 2⟩,
  ⟨11499, 11501, 1, 2⟩, ⟨11506, 11506, 1, 1⟩, ⟨42560, 42604, 1, 2⟩, ⟨42624, 42650, 1, 2⟩,
  ⟨42786, 42798, 1, 2⟩, ⟨42802, 42862, 1, 2⟩, ⟨42873, 42875, 1, 2⟩, ⟨42877, 42877, -35332, 1⟩,
  ⟨42878, 42886, 1, 2⟩, ⟨42891, 42891, 1, 1⟩, ⟨42893, 42893, -42280, 1⟩, ⟨42896, 42898, 1, 2⟩,
  ⟨42902, 42920, 1, 2⟩, ⟨42922, 42922, -42308, 1⟩, ⟨42923, 42923, -42319, 1⟩, ⟨42924, 42924, -42315, 1⟩,
  ⟨42925, 42925, -42305, 1⟩, ⟨42926, 42926, -42308, 1⟩, ⟨42928, 42928, -42258, 1⟩, ⟨42929, 42929, -42282, 1⟩,
  ⟨42930, 42930, -42261, 1⟩, ⟨42931, 42931, 928, 1⟩, ⟨42932, 42946, 1, 2⟩, ⟨42948, 42948, -48, 1⟩,
  ⟨42949, 42949, -42307, 1⟩, ⟨42950, 42950, -35384, 1⟩, ⟨42951, 42953, 1, 2⟩, ⟨42960, 42960, 1, 1⟩,
  ⟨42966, 42968, 1, 2⟩, ⟨42997, 42997, 1, 1⟩, ⟨65313, 65338, 32, 1⟩, ⟨66560, 66599, 40, 1⟩,
  ⟨66736, 66771, 40, 1⟩, ⟨66928, 66938, 39, 1⟩, ⟨66940, 66954, 39, 1⟩, ⟨66956, 66962, 39, 1⟩,
  ⟨66964, 66965, 39, 1⟩, ⟨68736, 68786, 64, 1⟩, ⟨71840, 71871, 32, 1⟩, ⟨93760, 93791, 32, 1⟩,
  ⟨125184, 125217, 34, 1⟩]

def upperRuns : List CaseRun := [
  ⟨97, 122, -32, 1⟩, ⟨181, 181, 743, 1⟩, ⟨224, 246, -32, 1⟩, ⟨248, 254, -32, 1⟩,
  ⟨255, 255, 121, 1⟩, ⟨257, 303, -1, 2⟩, ⟨305, 305, -232, 1⟩, ⟨307, 311, -1, 2⟩,
  ⟨314, 328, -1, 2⟩, ⟨331, 375, -1, 2⟩, ⟨378, 382, -1, 2⟩, ⟨383, 383, -300, 1⟩,
  ⟨384, 384, 195, 1⟩, ⟨387, 389, -1, 2⟩, ⟨392, 392, -1, 1⟩, ⟨396, 396, -1, 1⟩,
  ⟨402, 402, -1, 1⟩, ⟨405, 405, 97, 1⟩, ⟨409, 409, -1, 1⟩, ⟨410, 410, 163, 1⟩,
  ⟨414, 414, 130, 1⟩, ⟨417, 421, -1, 2⟩, ⟨424, 424, -1, 1⟩, ⟨429, 429, -1, 1⟩,
  ⟨432, 432, -1, 1⟩, ⟨436, 438, -1, 2⟩, ⟨441, 441, -1, 1⟩, ⟨445, 445, -1, 1⟩,
  ⟨447, 447, 56, 1⟩, ⟨453, 453, -1, 1⟩, ⟨454, 454, -2, 1⟩, ⟨456, 456, -1, 1⟩,
  ⟨457, 457, -2, 1⟩, ⟨459, 459, -1, 1⟩, ⟨460, 460, -2, 1⟩, ⟨462, 476, -1, 2⟩,
  ⟨477, 477, -79, 1⟩, ⟨479, 495, -1, 2⟩, ⟨498, 498, -1, 1⟩, ⟨499, 499, -2, 1⟩,
  ⟨501, 501, -1, 1⟩, ⟨505, 543, -1, 2⟩, ⟨547, 563, -1, 2⟩, ⟨572, 572, -1, 1⟩,
  ⟨575, 576, 10815, 1⟩, ⟨578, 578, -1, 1⟩, ⟨583, 591, -1, 2⟩, ⟨592, 592, 10783, 1⟩,
  ⟨593, 593, 10780, 1⟩, ⟨594, 594, 10782, 1⟩, ⟨595, 595, -210, 1⟩, ⟨596, 596, -206, 1⟩,
  ⟨598, 599, -205, 1⟩, ⟨601, 601, -202, 1⟩, ⟨603, 603, -203, 1⟩, ⟨604, 604, 42319, 1⟩,
  ⟨608, 608, -205, 1⟩, ⟨609, 609, 42315, 1⟩, ⟨611, 611, -207, 1⟩, ⟨613, 613, 42280, 1⟩,
  ⟨614, 614, 42308, 1⟩, ⟨616, 616, -209, 1⟩, ⟨617, 617, -211, 1⟩, ⟨618, 618, 42308, 1⟩,
  ⟨619, 619, 10743, 1⟩, ⟨620, 620, 42305, 1⟩, ⟨623, 623, -211, 1⟩, ⟨625, 625, 10749, 1⟩,
  ⟨626, 626, -213, 1⟩, ⟨629, 629, -214, 1⟩, ⟨637, 637, 10727, 1⟩, ⟨640, 640, -218, 1⟩,
  ⟨642, 642, 42307, 1⟩, ⟨643, 643, -218, 1⟩, ⟨647, 647, 42282, 1⟩, ⟨648, 648, -218, 1⟩,
  ⟨649, 649, -69, 1⟩, ⟨650, 651, -217, 1⟩, ⟨652, 652, -71, 1⟩, ⟨658, 658, -219, 1⟩,
  ⟨669, 669, 42261, 1⟩, ⟨670, 670, 42258, 1⟩, ⟨837, 837, 84, 1⟩, ⟨881, 883, -1, 2⟩,
  ⟨887, 887, -1, 1⟩, ⟨891, 893, 130, 1⟩, ⟨940, 940, -38, 1⟩, ⟨941, 943, -37, 1⟩,
  ⟨945, 961, -32, 1⟩, ⟨962, 962, -31, 1⟩, ⟨963, 971, -32, 1⟩, ⟨972, 972, -64, 1⟩,
  ⟨973, 974, -63, 1⟩, ⟨976, 976, -62, 1⟩, ⟨977, 977, -57, 1⟩, ⟨981, 981, -47, 1⟩,
  ⟨982, 982, -54, 1⟩, ⟨983, 983, -8, 1⟩, ⟨985, 1007, -1, 2⟩, ⟨1008, 1008, -86, 1⟩,
  ⟨1009, 1009, -80, 1⟩, ⟨1010, 1010, 7, 1⟩, ⟨1011, 1011, -116, 1⟩, ⟨1013, 1013, -96, 1⟩,
  ⟨1016, 1016, -1, 1⟩, ⟨1019, 1019, -1, 1⟩, ⟨1072, 1103, -32, 1⟩, ⟨1104, 1119, -80, 1⟩,
  ⟨1121, 1153, -1, 2⟩, ⟨1163, 1215, -1, 2⟩, ⟨1218, 1230, -1, 2⟩, ⟨1231, 1231, -15, 1⟩,
  ⟨1233, 1327, -1, 2⟩, ⟨1377, 1414, -48, 1⟩, ⟨4304, 4346, 3008, 1⟩, ⟨4349, 4351, 3008, 1⟩,
  ⟨5112, 5117, -8, 1⟩, ⟨7296, 7296, -6254, 1⟩, ⟨7297, 7297, -6253, 1⟩, ⟨7298, 7298, -6244, 1⟩,
  ⟨7299, 7300, -6242, 1⟩, ⟨7301, 7301, -6243, 1⟩, ⟨7302, 7302, -6236, 1⟩, ⟨7303, 7303, -6181, 1⟩,
  ⟨7304, 7304, 35266, 1⟩, ⟨7545, 7545, 35332, 1⟩, ⟨7549, 7549, 3814, 1⟩, ⟨7566, 7566, 35384, 1⟩,
  ⟨7681, 7829, -1, 2⟩, ⟨7835, 7835, -59, 1⟩, ⟨7841, 7935, -1, 2⟩, ⟨7936, 7943, 8, 1⟩,
  ⟨7952, 7957, 8, 1⟩, ⟨7968, 7975, 8, 1⟩, ⟨7984, 7991, 8, 1⟩, ⟨8000, 8005, 8, 1⟩,
  ⟨8017, 8023, 8, 2⟩, ⟨8032, 8039, 8, 1⟩, ⟨8048, 8049, 74, 1⟩, ⟨8050, 8053, 86, 1⟩,
  ⟨8054, 8055, 100, 1⟩, ⟨8056, 8057, 128, 1⟩, ⟨8058, 8059, 112, 1⟩, ⟨8060, 8061, 126, 1⟩,
  ⟨8112, 8113, 8, 1⟩, ⟨8126, 8126, -7205, 1⟩, ⟨8144, 8145, 8, 1⟩, ⟨8160, 8161, 8, 1⟩,
  ⟨8165, 8165, 7, 1⟩, ⟨8526, 8526, -28, 1⟩, ⟨8560, 8575, -16, 1⟩, ⟨8580, 8580, -1, 1⟩,
  ⟨9424, 9449, -26, 1⟩, ⟨11312, 11359, -48, 1⟩, ⟨11361, 11361, -1, 1⟩, ⟨11365, 11365, -10795, 1⟩,
  ⟨11366, 11366, -10792, 1⟩, ⟨11368, 11372, -1, 2⟩, ⟨11379, 11379, -1, 1⟩, ⟨11382, 11382, -1, 1⟩,
  ⟨11393, 11491, -1, 2⟩, ⟨11500, 11502, -1, 2⟩, ⟨11507, 11507, -1, 1⟩, ⟨11520, 11557, -7264, 1⟩,
  ⟨11559, 11559, -7264, 1⟩, ⟨11565, 11565, -7264, 1⟩, ⟨42561, 42605, -1, 2⟩, ⟨42625, 42651, -1, 2⟩,
  ⟨42787, 42799, -1, 2⟩, ⟨42803, 42863, -1, 2⟩, ⟨42874, 42876, -1, 2⟩, ⟨42879, 42887, -1, 2⟩,
  ⟨42892, 42892, -1, 1⟩, ⟨42897, 42899, -1, 2⟩, ⟨42900, 42900, 48, 1⟩, ⟨42903, 42921, -1, 2⟩,
  ⟨42933, 42947, -1, 2⟩, ⟨42952, 42954, -1, 2⟩, ⟨42961, 42961, -1, 1⟩, ⟨42967, 42969, -1, 2⟩,
  ⟨42998, 42998, -1, 1⟩, ⟨43859, 43859, -928, 1⟩, ⟨43888, 43967, -38864, 1⟩, ⟨65345, 65370, -32, 1⟩,
  ⟨66600, 66639, -40, 1⟩, ⟨66776, 66811, -40, 1⟩, ⟨66967, 66977, -39, 1⟩, ⟨66979, 66993, -39, 1⟩,
  ⟨66995, 67001, -39, 1⟩, ⟨67003, 67004, -39, 1⟩, ⟨68800, 68850, -64, 1⟩, ⟨71872, 71903, -32, 1⟩,
  ⟨93792, 93823, -32, 1⟩, ⟨125218, 125251, -34, 1⟩]

def upperExpansions : List (Nat × String) := [
  (223, "SS"), (329, "ʼN"), (496, "J\u030c"), (912, "Ι\u0308\u0301"),
  (944, "Υ\u0308\u0301"), (1415, "ԵՒ"), (7830, "H\u0331"), (7831, "T\u0308"),
  (7832, "W\u030a"), (7833, "Y\u030a"), (7834, "Aʾ"), (8016, "Υ\u0313"),
  (8018, "Υ\u0313\u0300"), (8020, "Υ\u0313\u0301"), (8022, "Υ\u0313\u0342"), (8064, "ἈΙ"),
  (8065, "ἉΙ"), (8066, "ἊΙ"), (8067, "ἋΙ"), (8068, "ἌΙ"),
  (8069, "ἍΙ"), (8070, "ἎΙ"), (8071, "ἏΙ"), (8072, "ἈΙ"),
  (8073, "ἉΙ"), (8074, "ἊΙ"), (8075, "ἋΙ"), (8076, "ἌΙ"),
  (8077, "ἍΙ"), (8078, "ἎΙ"), (8079, "ἏΙ"), (8080, "ἨΙ"),
  (8081, "ἩΙ"), (8082, "ἪΙ"), (8083, "ἫΙ"), (8084, "ἬΙ"),
  (8085, "ἭΙ"), (8086, "ἮΙ"), (8087, "ἯΙ"), (8088, "ἨΙ"),
  (8089, "ἩΙ"), (8090, "ἪΙ"), (8091, "ἫΙ"), (8092, "ἬΙ"),
  (8093, "ἭΙ"), (8094, "ἮΙ"), (8095, "ἯΙ"), (8096, "ὨΙ"),
  (8097, "ὩΙ"), (8098, "ὪΙ"), (8099, "ὫΙ"), (8100, "ὬΙ"),
  (8101, "ὭΙ"), (8102, "ὮΙ"), (8103, "ὯΙ"), (8104, "ὨΙ"),
  (8105, "ὩΙ"), (8106, "ὪΙ"), (8107, "ὫΙ"), (8108, "ὬΙ"),
  (8109, "ὭΙ"), (8110, "ὮΙ"), (8111, "ὯΙ"), (8114, "ᾺΙ"),
  (8115, "ΑΙ"), (8116, "ΆΙ"), (8118, "Α\u0342"), (8119, "Α\u0342Ι"),
  (8124, "ΑΙ"), (8130, "ῊΙ"), (8131, "ΗΙ"), (8132, "ΉΙ"),
  (8134, "Η\u0342"), (8135, "Η\u0342Ι"), (8140, "ΗΙ"), (8146, "Ι\u0308\u0300"),
  (8147, "Ι\u0308\u0301"), (8150, "Ι\u0342"), (8151, "Ι\u0308\u0342"), (8162, "Υ\u0308\u0300"),
  (8163, "Υ\u0308\u0301"), (8164, "Ρ\u0313"), (8166, "Υ\u0342"), (8167, "Υ\u0308\u0342"),
  (8178, "ῺΙ"), (8179, "ΩΙ"), (8180, "ΏΙ"), (8182, "Ω\u0342"),
  (8183, "Ω\u0342Ι"), (8188, "ΩΙ"), (64256, "FF"), (64257, "FI"),
  (64258, "FL"), (64259, "FFI"), (64260, "FFL"), (64261, "ST"),
  (64262, "ST"), (64275, "ՄՆ"), (64276, "ՄԵ"), (64277, "ՄԻ"),
  (64278, "ՎՆ"), (64279, "ՄԽ")]

def lowerChar (c : Char) : List Char :=
  if c.toNat < 128 then [c.toLower]
  else if c.toNat = 0x130 then ['i', '\u0307']
  else match mapByRuns lowerRuns c.toNat with
    | some n => [Char.ofNat n]
    | none => [c]

def upperChar (c : Char) : List Char :=
  if c.toNat < 128 then [c.toUpper]
  else match upperExpansions.lookup c.toNat with
    | some s => s.toList
    | none => match mapByRuns upperRuns c.toNat with
      | some n => [Char.ofNat n]
      | none => [c]

/-- Lowercase a text character by character. -/
def lower (cs : List Char) : List Char := cs.flatMap lowerChar

def upper (cs : List Char) : List Char := cs.flatMap upperChar

def lowerString (s : String) : String := String.ofList (lower s.toList)

def upperString (s : String) : String := String.ofList (upper s.toList)

end VideoStats.Text
