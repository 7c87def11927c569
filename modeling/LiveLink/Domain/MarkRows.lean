/-!
# Combining marks

Each word starts a range of code points, a step from the start of the range before,
in base 36. Every second range, from the second on, holds the combining marks.
-/

namespace LiveLink.Domain

/-- The ranges without and with combining marks, by turns, as words. -/
def markRows : List String := [
  "4h gv 35 7m 8 7a 19 1 1 1 2 1 2 1 9 1s b 1c l g 1 2t 8 1 6 2 2 1 4 z 1 u t 2h b 1m 9 9 1 o 4",
  "1 9 1 3 1 7 15 5 1l 9 16 1m 1i 3 1 i 1 f 2 2 t 4 1j 1 1 g 9 9 2 4 o 7 1j w k 2 3 1 b 4 1j 1",
  "1 i i 4 k b 1j 1 1 x 3 4 s 1 1n i 7 f q 5 1j 1 1 q a 4 r 3 1k 1 1 u 6 4 d h 1j 2 1 g 9 1 a 4",
  "r 4 1x s c 2 1p 1 2 b 8 8 2q 1 2 9 b 8 20 2 r 1 1 1 1 1 4 2 1d k 1 2 5 1d 8 1 2s k n 4 4 3 1",
  "3 2 7 3 4 d c 1 1 a 4 jj 3 qa d j 3 t e i e 1i u 9 3 4l 2 y 1 3a w 5z 7 1j 17 1c 2d 1b h 12",
  "9 c 3 u d 1k m 14 n 45 3 1 l 4 1 6 1 2 3 5i 1t jz 1g 2cr 4 3w 1 2o w fe 6 2x 4 n9u 4 1 a w 2",
  "28 2 7k 1 3 1 4 1 n 5 4 4 28 2 1e q i i d 1 12 8 p o x 4 1b e 10 1 1v n 3 1 8 4 17 3 1e 1 1",
  "3 2 2 5 2 1 1 15 5 5 c 6a 8 1 4 fn2 44 ha 11 qg 3n 2o 1 45 a 1a9 f 14 8 4l 6 ft c 1l 5 8t 2",
  "25 6 1y b 1d 4 3e 3 1h f 15 1 2 2 a 4 19 b 7 e 1c 3 10 f f 2 18 1 c 3 1c e 8 4 1 2 2k c 6 1",
  "2 1r 2n h g 5 1i 2 1 i 7 6 5 u 1k p 1 1 e v 1h i n 1 29 k 6j i r 10 1c h 2y d 2t j 70 f 6t f",
  "1 1 1 2 3x g 3 s 1 a 14 7 1 4 8 9 1 b 1a g 5i 2o 33 h 2a 32 1d l 1 9 1m e 9n 4 9 2 1 1 1c f",
  "n 2e 428 1 6 p 8u6 i 1xc 5 1n 7 t4 1 1 1u 29 e f57 2 3mp 28 et 5 3 m 2 7 u 4 44 3 1iz 1j 4",
  "1e 8 1 e 1 m v9 74 74 1c 7 af i 18 4 e4 4 72 2 6r 1 2 1 7 2 5 9 cy 2a y 7"]

end LiveLink.Domain
