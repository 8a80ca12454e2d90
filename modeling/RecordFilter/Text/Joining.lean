import RecordFilter.Text.Unassigned

/-!
# Characters that join their neighbours

Two classes of the Unicode property `Grapheme_Cluster_Break`: marks that join the
character before them (`Extend`, `SpacingMark` and the joiner), and signs that join
the character after them (`Prepend`).
-/

namespace RecordFilter.Text

/-- Bounds of the ranges of characters that join the one before them. -/
def trailingBounds : List Nat :=
  [
    768, 880, 1155, 1162, 1425, 1470, 1471, 1472, 1473, 1475, 1476, 1478, 1479, 1480, 1552, 1563,
    1611, 1632, 1648, 1649, 1750, 1757, 1759, 1765, 1767, 1769, 1770, 1774, 1809, 1810, 1840,
    1867, 1958, 1969, 2027, 2036, 2045, 2046, 2070, 2074, 2075, 2084, 2085, 2088, 2089, 2094,
    2137, 2140, 2199, 2208, 2250, 2274, 2275, 2308, 2362, 2365, 2366, 2384, 2385, 2392, 2402,
    2404, 2433, 2436, 2492, 2493, 2494, 2501, 2503, 2505, 2507, 2510, 2519, 2520, 2530, 2532,
    2558, 2559, 2561, 2564, 2620, 2621, 2622, 2627, 2631, 2633, 2635, 2638, 2641, 2642, 2672,
    2674, 2677, 2678, 2689, 2692, 2748, 2749, 2750, 2758, 2759, 2762, 2763, 2766, 2786, 2788,
    2810, 2816, 2817, 2820, 2876, 2877, 2878, 2885, 2887, 2889, 2891, 2894, 2901, 2904, 2914,
    2916, 2946, 2947, 3006, 3011, 3014, 3017, 3018, 3022, 3031, 3032, 3072, 3077, 3132, 3133,
    3134, 3141, 3142, 3145, 3146, 3150, 3157, 3159, 3170, 3172, 3201, 3204, 3260, 3261, 3262,
    3269, 3270, 3273, 3274, 3278, 3285, 3287, 3298, 3300, 3315, 3316, 3328, 3332, 3387, 3389,
    3390, 3397, 3398, 3401, 3402, 3406, 3415, 3416, 3426, 3428, 3457, 3460, 3530, 3531, 3535,
    3541, 3542, 3543, 3544, 3552, 3570, 3572, 3633, 3634, 3635, 3643, 3655, 3663, 3761, 3762,
    3763, 3773, 3784, 3791, 3864, 3866, 3893, 3894, 3895, 3896, 3897, 3898, 3902, 3904, 3953,
    3973, 3974, 3976, 3981, 3992, 3993, 4029, 4038, 4039, 4141, 4152, 4153, 4159, 4182, 4186,
    4190, 4193, 4209, 4213, 4226, 4227, 4228, 4231, 4237, 4238, 4253, 4254, 4957, 4960, 5906,
    5910, 5938, 5941, 5970, 5972, 6002, 6004, 6068, 6100, 6109, 6110, 6155, 6158, 6159, 6160,
    6277, 6279, 6313, 6314, 6432, 6444, 6448, 6460, 6679, 6684, 6741, 6751, 6752, 6753, 6754,
    6755, 6757, 6781, 6783, 6784, 6832, 6878, 6880, 6892, 6912, 6917, 6964, 6981, 7019, 7028,
    7040, 7043, 7073, 7086, 7142, 7156, 7204, 7224, 7376, 7379, 7380, 7401, 7405, 7406, 7412,
    7413, 7415, 7418, 7616, 7680, 8204, 8206, 8400, 8433, 11503, 11506, 11647, 11648, 11744,
    11776, 12330, 12336, 12441, 12443, 42607, 42611, 42612, 42622, 42654, 42656, 42736, 42738,
    43010, 43011, 43014, 43015, 43019, 43020, 43043, 43048, 43052, 43053, 43136, 43138, 43188,
    43206, 43232, 43250, 43263, 43264, 43302, 43310, 43335, 43348, 43392, 43396, 43443, 43457,
    43493, 43494, 43561, 43575, 43587, 43588, 43596, 43598, 43644, 43645, 43696, 43697, 43698,
    43701, 43703, 43705, 43710, 43712, 43713, 43714, 43755, 43760, 43765, 43767, 44003, 44011,
    44012, 44014, 64286, 64287, 65024, 65040, 65056, 65072, 65438, 65440, 66045, 66046, 66272,
    66273, 66422, 66427, 68097, 68100, 68101, 68103, 68108, 68112, 68152, 68155, 68159, 68160,
    68325, 68327, 68900, 68904, 68969, 68974, 69291, 69293, 69370, 69376, 69446, 69457, 69506,
    69510, 69632, 69635, 69688, 69703, 69744, 69745, 69747, 69749, 69759, 69763, 69808, 69819,
    69826, 69827, 69888, 69891, 69927, 69941, 69957, 69959, 70003, 70004, 70016, 70019, 70067,
    70081, 70089, 70093, 70094, 70096, 70188, 70200, 70206, 70207, 70209, 70210, 70367, 70379,
    70400, 70404, 70459, 70461, 70462, 70469, 70471, 70473, 70475, 70478, 70487, 70488, 70498,
    70500, 70502, 70509, 70512, 70517, 70584, 70593, 70594, 70595, 70597, 70598, 70599, 70603,
    70604, 70609, 70610, 70611, 70625, 70627, 70709, 70727, 70750, 70751, 70832, 70852, 71087,
    71094, 71096, 71105, 71132, 71134, 71216, 71233, 71339, 71352, 71453, 71456, 71458, 71468,
    71724, 71739, 71984, 71990, 71991, 71993, 71995, 71999, 72000, 72001, 72002, 72004, 72145,
    72152, 72154, 72161, 72164, 72165, 72193, 72203, 72243, 72250, 72251, 72255, 72263, 72264,
    72273, 72284, 72330, 72346, 72544, 72552, 72751, 72759, 72760, 72768, 72850, 72872, 72873,
    72887, 73009, 73015, 73018, 73019, 73020, 73022, 73023, 73030, 73031, 73032, 73098, 73103,
    73104, 73106, 73107, 73112, 73459, 73463, 73472, 73474, 73475, 73476, 73524, 73531, 73534,
    73539, 73562, 73563, 78912, 78913, 78919, 78934, 90398, 90416, 92912, 92917, 92976, 92983,
    94031, 94032, 94033, 94088, 94095, 94099, 94180, 94181, 94192, 94194, 113821, 113823, 118528,
    118574, 118576, 118599, 119141, 119146, 119149, 119155, 119163, 119171, 119173, 119180,
    119210, 119214, 119362, 119365, 121344, 121399, 121403, 121453, 121461, 121462, 121476,
    121477, 121499, 121504, 121505, 121520, 122880, 122887, 122888, 122905, 122907, 122914,
    122915, 122917, 122918, 122923, 123023, 123024, 123184, 123191, 123566, 123567, 123628,
    123632, 124140, 124144, 124398, 124400, 124643, 124644, 124646, 124647, 124654, 124656,
    124661, 124662, 125136, 125143, 125252, 125259, 127995, 128000, 917536, 917632, 917760, 918000
  ]

/-- Whether a character joins the one before it. -/
def isTrailing (c : Char) : Bool :=
  inRanges trailingBounds c.toNat

/-- Bounds of the ranges of characters that join the one after them. -/
def leadingBounds : List Nat :=
  [
    1536, 1542, 1757, 1758, 1807, 1808, 2192, 2194, 2274, 2275, 3406, 3407, 69821, 69822, 69837,
    69838, 70082, 70084, 70609, 70610, 71999, 72000, 72001, 72002, 72324, 72330, 73030, 73031,
    73474, 73475
  ]

/-- Whether a character joins the one after it. -/
def isLeading (c : Char) : Bool :=
  inRanges leadingBounds c.toNat

end RecordFilter.Text
