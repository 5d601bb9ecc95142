import Embedder.Types

/-!
The instructions that compute with numbers and touch nothing else.

* `Numeric`: the instructions by family;
* `Numeric.name`, `Numeric.operands`, `Numeric.result`: their names and types;
* `Numeric.table`, `Numeric.saturating`: the two blocks of consecutive opcodes, in order.
-/

namespace Embedder

inductive IntWidth where
  | w32
  | w64
  deriving DecidableEq

inductive FloatWidth where
  | w32
  | w64
  deriving DecidableEq

def IntWidth.type : IntWidth → ValueType
  | .w32 => .i32
  | .w64 => .i64

def FloatWidth.type : FloatWidth → ValueType
  | .w32 => .f32
  | .w64 => .f64

inductive IntUnary where
  | clz
  | ctz
  | popcnt
  | extend8
  | extend16
  | extend32
  deriving DecidableEq

inductive IntBinary where
  | add
  | sub
  | mul
  | divS
  | divU
  | remS
  | remU
  | and
  | or
  | xor
  | shl
  | shrS
  | shrU
  | rotl
  | rotr
  deriving DecidableEq

inductive IntCompare where
  | eq
  | ne
  | ltS
  | ltU
  | gtS
  | gtU
  | leS
  | leU
  | geS
  | geU
  deriving DecidableEq

inductive FloatUnary where
  | abs
  | neg
  | ceil
  | floor
  | trunc
  | nearest
  | sqrt
  deriving DecidableEq

inductive FloatBinary where
  | add
  | sub
  | mul
  | div
  | min
  | max
  | copysign
  deriving DecidableEq

inductive FloatCompare where
  | eq
  | ne
  | lt
  | gt
  | le
  | ge
  deriving DecidableEq

inductive Numeric where
  | eqz (w : IntWidth)
  | intCompare (w : IntWidth) (op : IntCompare)
  | floatCompare (w : FloatWidth) (op : FloatCompare)
  | intUnary (w : IntWidth) (op : IntUnary)
  | intBinary (w : IntWidth) (op : IntBinary)
  | floatUnary (w : FloatWidth) (op : FloatUnary)
  | floatBinary (w : FloatWidth) (op : FloatBinary)
  | wrap
  | extend (signed : Bool)
  | trunc (target : IntWidth) (source : FloatWidth) (signed : Bool)
  | truncSat (target : IntWidth) (source : FloatWidth) (signed : Bool)
  | convert (target : FloatWidth) (source : IntWidth) (signed : Bool)
  | demote
  | promote
  | floatBits (w : IntWidth)
  | bitsFloat (w : FloatWidth)
  deriving DecidableEq

/-! ### Names -/

def IntWidth.text : IntWidth → String
  | .w32 => "i32"
  | .w64 => "i64"

def FloatWidth.text : FloatWidth → String
  | .w32 => "f32"
  | .w64 => "f64"

def IntUnary.text : IntUnary → String
  | .clz => "clz"
  | .ctz => "ctz"
  | .popcnt => "popcnt"
  | .extend8 => "extend8_s"
  | .extend16 => "extend16_s"
  | .extend32 => "extend32_s"

def IntBinary.text : IntBinary → String
  | .add => "add"
  | .sub => "sub"
  | .mul => "mul"
  | .divS => "div_s"
  | .divU => "div_u"
  | .remS => "rem_s"
  | .remU => "rem_u"
  | .and => "and"
  | .or => "or"
  | .xor => "xor"
  | .shl => "shl"
  | .shrS => "shr_s"
  | .shrU => "shr_u"
  | .rotl => "rotl"
  | .rotr => "rotr"

def IntCompare.text : IntCompare → String
  | .eq => "eq"
  | .ne => "ne"
  | .ltS => "lt_s"
  | .ltU => "lt_u"
  | .gtS => "gt_s"
  | .gtU => "gt_u"
  | .leS => "le_s"
  | .leU => "le_u"
  | .geS => "ge_s"
  | .geU => "ge_u"

def FloatUnary.text : FloatUnary → String
  | .abs => "abs"
  | .neg => "neg"
  | .ceil => "ceil"
  | .floor => "floor"
  | .trunc => "trunc"
  | .nearest => "nearest"
  | .sqrt => "sqrt"

def FloatBinary.text : FloatBinary → String
  | .add => "add"
  | .sub => "sub"
  | .mul => "mul"
  | .div => "div"
  | .min => "min"
  | .max => "max"
  | .copysign => "copysign"

def FloatCompare.text : FloatCompare → String
  | .eq => "eq"
  | .ne => "ne"
  | .lt => "lt"
  | .gt => "gt"
  | .le => "le"
  | .ge => "ge"

/-- The ending that says how an integer is read. -/
def signSuffix (signed : Bool) : String := if signed then "_s" else "_u"

namespace Numeric

def name : Numeric → String
  | .eqz w => w.text ++ ".eqz"
  | .intCompare w op => w.text ++ "." ++ op.text
  | .floatCompare w op => w.text ++ "." ++ op.text
  | .intUnary w op => w.text ++ "." ++ op.text
  | .intBinary w op => w.text ++ "." ++ op.text
  | .floatUnary w op => w.text ++ "." ++ op.text
  | .floatBinary w op => w.text ++ "." ++ op.text
  | .wrap => "i32.wrap_i64"
  | .extend signed => "i64.extend_i32" ++ signSuffix signed
  | .trunc t s signed => t.text ++ ".trunc_" ++ s.text ++ signSuffix signed
  | .truncSat t s signed => t.text ++ ".trunc_sat_" ++ s.text ++ signSuffix signed
  | .convert t s signed => t.text ++ ".convert_" ++ s.text ++ signSuffix signed
  | .demote => "f32.demote_f64"
  | .promote => "f64.promote_f32"
  | .floatBits .w32 => "i32.reinterpret_f32"
  | .floatBits .w64 => "i64.reinterpret_f64"
  | .bitsFloat .w32 => "f32.reinterpret_i32"
  | .bitsFloat .w64 => "f64.reinterpret_i64"

/-! ### Types -/

/-- The types of the operands, the last one on top of the stack. -/
def operands : Numeric → List ValueType
  | .eqz w => [w.type]
  | .intCompare w _ => [w.type, w.type]
  | .floatCompare w _ => [w.type, w.type]
  | .intUnary w _ => [w.type]
  | .intBinary w _ => [w.type, w.type]
  | .floatUnary w _ => [w.type]
  | .floatBinary w _ => [w.type, w.type]
  | .wrap => [.i64]
  | .extend _ => [.i32]
  | .trunc _ s _ => [s.type]
  | .truncSat _ s _ => [s.type]
  | .convert _ s _ => [s.type]
  | .demote => [.f64]
  | .promote => [.f32]
  | .floatBits .w32 => [.f32]
  | .floatBits .w64 => [.f64]
  | .bitsFloat .w32 => [.i32]
  | .bitsFloat .w64 => [.i64]

def result : Numeric → ValueType
  | .eqz _ => .i32
  | .intCompare _ _ => .i32
  | .floatCompare _ _ => .i32
  | .intUnary w _ => w.type
  | .intBinary w _ => w.type
  | .floatUnary w _ => w.type
  | .floatBinary w _ => w.type
  | .wrap => .i32
  | .extend _ => .i64
  | .trunc t _ _ => t.type
  | .truncSat t _ _ => t.type
  | .convert t _ _ => t.type
  | .demote => .f32
  | .promote => .f64
  | .floatBits w => w.type
  | .bitsFloat w => w.type

/-! ### Opcodes -/

def comparisons (w : IntWidth) : List Numeric :=
  .eqz w :: [IntCompare.eq, .ne, .ltS, .ltU, .gtS, .gtU, .leS, .leU, .geS, .geU].map (.intCompare w)

def floatComparisons (w : FloatWidth) : List Numeric :=
  [FloatCompare.eq, .ne, .lt, .gt, .le, .ge].map (.floatCompare w)

def intOperations (w : IntWidth) : List Numeric :=
  [IntUnary.clz, .ctz, .popcnt].map (.intUnary w) ++
    [IntBinary.add, .sub, .mul, .divS, .divU, .remS, .remU, .and, .or, .xor, .shl, .shrS, .shrU,
      .rotl, .rotr].map (.intBinary w)

def floatOperations (w : FloatWidth) : List Numeric :=
  [FloatUnary.abs, .neg, .ceil, .floor, .trunc, .nearest, .sqrt].map (.floatUnary w) ++
    [FloatBinary.add, .sub, .mul, .div, .min, .max, .copysign].map (.floatBinary w)

/-- The instructions with consecutive opcodes from `0x45` on. -/
def table : List Numeric :=
  comparisons .w32 ++ comparisons .w64 ++ floatComparisons .w32 ++ floatComparisons .w64 ++
    intOperations .w32 ++ intOperations .w64 ++ floatOperations .w32 ++ floatOperations .w64 ++
    [.wrap, .trunc .w32 .w32 true, .trunc .w32 .w32 false, .trunc .w32 .w64 true,
      .trunc .w32 .w64 false, .extend true, .extend false, .trunc .w64 .w32 true,
      .trunc .w64 .w32 false, .trunc .w64 .w64 true, .trunc .w64 .w64 false,
      .convert .w32 .w32 true, .convert .w32 .w32 false, .convert .w32 .w64 true,
      .convert .w32 .w64 false, .demote, .convert .w64 .w32 true, .convert .w64 .w32 false,
      .convert .w64 .w64 true, .convert .w64 .w64 false, .promote, .floatBits .w32,
      .floatBits .w64, .bitsFloat .w32, .bitsFloat .w64, .intUnary .w32 .extend8,
      .intUnary .w32 .extend16, .intUnary .w64 .extend8, .intUnary .w64 .extend16,
      .intUnary .w64 .extend32]

/-- The instructions with consecutive numbers from 0 on behind the opcode `0xFC`. -/
def saturating : List Numeric :=
  [.truncSat .w32 .w32 true, .truncSat .w32 .w32 false, .truncSat .w32 .w64 true,
    .truncSat .w32 .w64 false, .truncSat .w64 .w32 true, .truncSat .w64 .w32 false,
    .truncSat .w64 .w64 true, .truncSat .w64 .w64 false]

def all : List Numeric := table ++ saturating

def ofName? (s : String) : Option Numeric := all.find? fun n => n.name == s

end Numeric

end Embedder
