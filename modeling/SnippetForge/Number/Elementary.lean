import SnippetForge.Number.Binary

/-!
# Elementary functions

Roots, powers, exponentials, logarithms and angles of binary numbers. Each is reckoned with a binary
point far to the right of where the result ends, and rounded once.
-/

namespace SnippetForge

namespace Binary

/-! ### Many binary places -/

/-- How many binary places are reckoned with. -/
def places : Nat := 320

/-- One, with all its binary places. -/
def unit : Int := powerOfTwo places

/-- The product of two numbers with many places. -/
def times (a b : Int) : Int :=
  a * b / unit

/-- The quotient of two numbers with many places. -/
def quotient (a b : Int) : Int :=
  a * unit / b

/-- A finite number with many places; others count as zero. -/
def widen (a : Binary) : Int :=
  match a.signedRatio? with
  | some (n, d) => n * unit / d
  | none => 0

/-- The number nearest to one with many places, times a power of two. -/
def narrow (n : Int) (power : Int) : Binary :=
  if 0 ≤ power then ofSigned (n * powerOfTwo power.toNat) (powerOfTwo places)
  else ofSigned n (powerOfTwo (places + (-power).toNat))

/-- The sum of a series, whose terms follow from each other until they vanish. `fuel` bounds how
many are added. -/
def series (next : Nat → Int → Int) : (fuel : Nat) → (index : Nat) → (term sum : Int) → Int
  | 0, _, _, sum => sum
  | fuel + 1, index, term, sum =>
    if term = 0 then sum else series next fuel (index + 1) (next index term) (sum + term)

/-- How many terms a series may have. -/
def terms : Nat := 400

/-- Adds the odd powers of a number from one on, each divided by its exponent, with signs that
alternate or not. `fuel` bounds how many are added. -/
def addOddPowers (alternates : Bool) (square : Int) :
    (fuel : Nat) → (exponent : Nat) → (power sum : Int) → Int
  | 0, _, _, sum => sum
  | fuel + 1, exponent, power, sum =>
    if power = 0 || power = -1 then sum
    else
      let next := times power square
      addOddPowers alternates square fuel (exponent + 2) (if alternates then -next else next)
        (sum + power / exponent)

/-- The odd powers of a small number, each divided by its exponent, with signs that alternate or
not. -/
def oddSeries (alternates : Bool) (x : Int) : Int :=
  addOddPowers alternates (times x x) terms 1 x 0

/-- The natural logarithm of two. -/
def logTwo : Int :=
  2 * oddSeries false (unit / 3)

/-- Half a turn over the radius. -/
def halfTurn : Int :=
  16 * oddSeries true (unit / 5) - 4 * oddSeries true (unit / 239)

/-! ### Roots and powers -/

/-- The root of a number. -/
def sqrt (a : Binary) : Binary :=
  match a with
  | .finite false m e =>
    if m = 0 then a
    else
      let shift := if e % 2 = 0 then 200 else 201
      let scaled := m * powerOfTwo shift
      let root := Nat.sqrt scaled
      let sticky := if root * root = scaled then 2 * root else 2 * root + 1
      let power := (e - shift) / 2 - 1
      if 0 ≤ power then ofRatio false (sticky * powerOfTwo power.toNat) 1
      else ofRatio false sticky (powerOfTwo (-power).toNat)
  | .finite true 0 _ => a
  | .infinite false => a
  | _ => .nan

/-- The exponential of a number with many places, as a number below two and a power of two. -/
def expParts (x : Int) : Int × Int :=
  let power := x / logTwo
  let rest := x - power * logTwo
  (series (fun index term => times term rest / (index + 1 : Nat)) terms 0 unit 0, power)

/-- The exponential of a number. -/
def exp (a : Binary) : Binary :=
  match a with
  | .nan => .nan
  | .infinite true => .zero
  | .infinite false => a
  | a =>
    if (Binary.ofInt 800).lt a then .infinite false
    else if a.lt (Binary.ofInt (-800)) then .zero
    else
      let (n, power) := expParts a.widen
      narrow n power

/-- The natural logarithm of a number that is greater than zero, with many places. -/
def wideLog (m : Nat) (e : Int) : Int :=
  let bits := Nat.log2 m
  let x : Int := m * unit / powerOfTwo bits
  -- Close to one, so that nothing cancels.
  let (x, power) : Int × Int := if unit * 4 < x * 3 then (x / 2, bits + 1) else (x, bits)
  2 * oddSeries false (quotient (x - unit) (x + unit)) + (power + e) * logTwo

/-- The natural logarithm of a number. -/
def log (a : Binary) : Binary :=
  match a with
  | .finite s m e =>
    if m = 0 then .infinite true else if s then .nan else narrow (wideLog m e) 0
  | .infinite false => a
  | _ => .nan

/-- A number to a whole power. -/
def whole? (a : Binary) (n : Int) : Option Binary :=
  match a with
  | .finite s m e =>
    let size := n.natAbs
    if 1100 < size * (Nat.log2 m + 1) then none
    else
      let isNegative := s && size % 2 = 1
      let (num, den) := ratio m e
      let (num, den) := (Nat.pow num size, Nat.pow den size)
      if n < 0 then
        some (if num = 0 then .infinite isNegative else ofRatio isNegative den num)
      else some (ofRatio isNegative num den)
  | _ => none

/-- A number to the power of another. -/
def pow (a b : Binary) : Binary :=
  let isOne := a.eq (.ofInt 1)
  if b.isZero || isOne then .ofInt 1
  else
    match a, b with
    | .nan, _ => .nan
    | _, .nan => .nan
    | a, .infinite s =>
      let size := if a.isNegative then a.neg else a
      if size.eq (.ofInt 1) then .ofInt 1
      else if size.lt (.ofInt 1) == s then .infinite false
      else .zero
    | .infinite s, b =>
      let isOdd := (b.toInt?).any fun n => n % 2 != 0
      if b.isNegative then .finite (s && isOdd) 0 0 else .infinite (s && isOdd)
    | .finite s m e, b =>
      let isOdd := (b.toInt?).any fun n => n % 2 != 0
      match (b.toInt?).bind (whole? a) with
      | some c => c
      | none =>
        if m = 0 then (if b.isNegative then .infinite (s && isOdd) else .finite (s && isOdd) 0 0)
        else if s && (b.toInt?).isNone then .nan
        else
          let exponent := times (wideLog m e) b.widen
          let isNegative := s && isOdd
          let bound := unit * 800
          if bound < exponent then .infinite isNegative
          else if exponent < -bound then .finite isNegative 0 0
          else
            let (n, power) := expParts exponent
            let c := narrow n power
            if isNegative then c.neg else c

/-! ### Angles -/

/-- The sine and the cosine of a finite number, with many places. -/
def sineAndCosine (a : Binary) : Int × Int :=
  let x := a.widen
  let quarter := halfTurn / 2
  let turns := (x + quarter / 2) / quarter
  let rest := x - turns * quarter
  let square := times rest rest
  let sine := series
    (fun index term => -(times term square) / ((2 * index + 2) * (2 * index + 3) : Nat)) terms 0
    rest 0
  let cosine := series
    (fun index term => -(times term square) / ((2 * index + 1) * (2 * index + 2) : Nat)) terms 0
    unit 0
  match (turns % 4).toNat with
  | 0 => (sine, cosine)
  | 1 => (cosine, -sine)
  | 2 => (-sine, -cosine)
  | _ => (-cosine, sine)

/-- The sine of a number. -/
def sin (a : Binary) : Binary :=
  match a with
  | .finite _ m _ => if m = 0 then a else narrow a.sineAndCosine.1 0
  | _ => .nan

/-- The cosine of a number. -/
def cos (a : Binary) : Binary :=
  match a with
  | .finite _ _ _ => narrow a.sineAndCosine.2 0
  | _ => .nan

/-- The angle whose tangent is a number between zero and one, with many places. -/
def wideAngle (x : Int) : Int :=
  -- Halving the angle three times makes the series short.
  let half (x : Int) : Int :=
    let root : Int := Nat.sqrt ((unit + times x x) * unit).toNat
    quotient x (unit + root)
  8 * oddSeries true (half (half (half x)))

/-- The angle of a point, from its height and its distance to the side. -/
def atan2 (y x : Binary) : Binary :=
  let signed (n : Int) : Binary :=
    narrow (if y.isNegative then -n else n) 0
  match y, x with
  | .nan, _ => .nan
  | _, .nan => .nan
  | .infinite _, .infinite s => signed (if s then halfTurn * 3 / 4 else halfTurn / 4)
  | .infinite _, _ => signed (halfTurn / 2)
  | .finite s _ _, .infinite t => if t then signed halfTurn else .finite s 0 0
  | .finite s m e, .finite t n k =>
    if m = 0 then (if t then signed halfTurn else .finite s 0 0)
    else if n = 0 then signed (halfTurn / 2)
    else
      let (a, b) := ratio m e
      let (c, d) := ratio n k
      let up : Int := a * d
      let side : Int := c * b
      let angle :=
        if up ≤ side then wideAngle (up * unit / side)
        else halfTurn / 2 - wideAngle (side * unit / up)
      signed (if t then halfTurn - angle else angle)

end Binary

end SnippetForge
