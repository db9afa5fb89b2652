import Precis.Decimal.Basic
import Precis.Item.Basic
import Precis.Word

/-!
# Tokens of a text

A counter says how many tokens a text takes, and an item. The estimator divides the number of
characters by a ratio and rounds up; a ratio that makes no sense is replaced by four characters a
token.
-/

namespace Precis

/-- Counts tokens. -/
structure TokenCounter where
  /-- The tokens of a text. -/
  count : String → UInt64
  /-- The tokens of an item, unless they are too many for a word: those of its title and of its
  content, where a counter does not count in a way of its own. -/
  ofItem : Item → Option UInt64 := fun item => Word.add? (count item.title) (count item.content)

namespace TokenCounter

/-- One token for each character. -/
def characters : TokenCounter where
  count s := UInt64.ofNat s.length

/-- One token for each byte. -/
def bytes : TokenCounter where
  count s := UInt64.ofNat s.utf8ByteSize

end TokenCounter

/-- A finite number above zero. -/
def isPositive (x : Float) : Bool := x.isFinite && 0 < x

/-- A number rounded up to a word: the largest word for a number beyond all words, and zero for one
that is not above zero. -/
def wordAbove (x : Float) : UInt64 :=
  if 0 < x then Word.clamp64 (Decimal.binaryOfBits x.toBits.toNat).ceil else 0

/-- Counts tokens by the number of characters. -/
structure Estimator where
  charsPerToken : Float

namespace Estimator

/-- Four characters a token. -/
def standard : Estimator := ⟨4⟩

/-- So many characters a token. -/
def ofCharsPerToken (x : Float) : Estimator := if isPositive x then ⟨x⟩ else standard

/-- So many tokens a character. -/
def ofTokensPerChar (x : Float) : Estimator :=
  if isPositive x then ofCharsPerToken (1 / x) else standard

/-- The tokens of a text of `n` characters. -/
def countOf (e : Estimator) (n : Nat) : UInt64 :=
  wordAbove ((Word.clamp64 n).toFloat / e.charsPerToken)

/-- The estimator as a counter. -/
def counter (e : Estimator) : TokenCounter where
  count s := e.countOf s.length

end Estimator

end Precis
