import Highlight.Number.Binary
import Highlight.Text.Lines

/-!
Captions: the texts of a toolbar and of labels, set in letters of different widths.
-/

set_option autoImplicit false

namespace Highlight.Caption

def size : Nat :=
  13

def rowHeight : Nat :=
  15

/-- The widths of the letters, in thousandths of their size. -/
def letterWidths : List (Char × Nat) :=
  [('a', 513), ('b', 571), ('c', 456), ('d', 571), ('e', 546), ('f', 369), ('g', 565), ('h', 562),
    ('i', 240), ('j', 240), ('k', 499), ('l', 268), ('m', 859), ('n', 562), ('o', 580), ('p', 571),
    ('q', 571), ('r', 369), ('s', 433), ('t', 382), ('u', 562), ('v', 474), ('w', 748), ('x', 492),
    ('y', 474), ('z', 453), ('A', 641), ('B', 637), ('C', 622), ('D', 700), ('E', 569), ('F', 538),
    ('G', 687), ('H', 709), ('I', 266), ('J', 502), ('K', 617), ('L', 527), ('M', 863), ('N', 729),
    ('O', 772), ('P', 612), ('Q', 772), ('R', 620), ('S', 537), ('T', 558), ('U', 683), ('V', 633),
    ('W', 901), ('X', 604), ('Y', 583), ('Z', 567), ('-', 300), (' ', 237)]

/-- The width of a character, in thousandths of its size; those that are no letters are about as
wide as a digit. -/
def widthOf (c : Char) : Nat :=
  (letterWidths.lookup c).getD 560

def width (text : List Char) : Rat :=
  mkRat ((text.map widthOf).foldr Nat.add 0 * size) 1000

def widest (text : List Char) : Rat :=
  ((Text.cut '\n' text).map width).foldl greater 0

def height (text : List Char) : Nat :=
  (Text.cut '\n' text).length * rowHeight

end Highlight.Caption
