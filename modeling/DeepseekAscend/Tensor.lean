import Mathlib.Algebra.BigOperators.Group.List

/-! Tensors of the layer code as lists of rows, and the torch operations that the code applies to
    them (§3, §4.1). A tensor of shape `(n, hidden_dim)` is the list of its `n` rows; the hidden dimension
    never changes and is left out. Each operation follows torch for every input the code can give it:
    slicing clamps its bounds as Python does, `F.pad` with a negative amount cuts rows, `+` broadcasts an
    operand of one row, a boolean mask needs one entry per row, and `torch.chunk` cuts pieces of
    `ceil(n / k)` rows. An operation that torch refuses raises the `Error` torch raises there. -/

namespace DeepseekAscend

/-- The exceptions a rank raises inside the layer code. -/
inductive Error where
  /-- `a + b`: the size of tensor a (m) must match the size of tensor b (n) at dimension 0. -/
  | sizeMismatch (m n : Nat)
  /-- `x[a:b] = v`: the expanded size of the tensor (n) must match the existing size (m). -/
  | expandMismatch (n m : Nat)
  /-- `x[mask, :]`: the shape of the mask [m] does not match the shape of the indexed tensor [n]. -/
  | maskMismatch (m n : Nat)
  /-- `xs[i]` on a tuple or a tensor of `n` entries. -/
  | indexOutOfRange (i n : Nat)
  /-- `F.pad`, `torch.zeros` or `torch.arange` asked for a negative size. -/
  | negativeSize
  /-- `max()` of an empty tensor. -/
  | emptyReduction
  /-- `reduce_scatter_tensor`: dimension 0 (n) is not a multiple of the group size. -/
  | notDivisible (n size : Nat)
  /-- `None + tensor`. -/
  | noneOperand
  /-- A module attribute that is None, called. -/
  | noneCallable
  /-- An attribute the object does not have. -/
  | noAttribute (name : String)
  /-- `1. / routed_scaling_factor` with a zero factor, or `layer_idx % moe_layer_freq` with a zero
      frequency. -/
  | zeroDivision
  /-- A `ValueError` a constructor raises, with its message. -/
  | valueError (msg : String)
  /-- A failed `assert` of a constructor. -/
  | assertionError
  /-- `d[key]` on a dict without the key. -/
  | keyError (key : String)
  deriving DecidableEq, Repr

variable {α β : Type}

/-! ### The exception monad -/

@[simp] theorem pure_eq_ok {ε : Type} (x : α) : (pure x : Except ε α) = .ok x := rfl

@[simp] theorem ok_bind {ε : Type} (x : α) (f : α → Except ε β) : (Except.ok x >>= f) = f x := rfl

@[simp] theorem error_bind {ε : Type} (e : ε) (f : α → Except ε β) : (Except.error e >>= f) = .error e := rfl

theorem eq_ok_of_bind_eq_ok {ε : Type} {x : Except ε α} {f : α → Except ε β} {b : β} (h : (x >>= f) = .ok b) :
    ∃ a, x = .ok a ∧ f a = .ok b := by
  cases x with
  | error e => cases h
  | ok a => exact ⟨a, rfl, h⟩

/-! ### Slicing -/

/-- Python's reading of a slice bound `i` of a sequence of `n` items: a negative bound counts from the
    end, and the bound is clamped to `[0, n]`. -/
def pyIndex (i : Int) (n : Nat) : Nat := if i < 0 then (i + n).toNat else min i.toNat n

/-- `x[a:b]`. -/
def pySlice (x : List α) (a b : Int) : List α :=
  (x.drop (pyIndex a x.length)).take (pyIndex b x.length - pyIndex a x.length)

@[simp] theorem pyIndex_natCast (i n : Nat) : pyIndex i n = min i n := by
  rw [pyIndex, if_neg (by omega)]
  simp

theorem pySlice_natCast (x : List α) (a b : Nat) : pySlice x a b = (x.drop a).take (b - a) := by
  simp only [pySlice, pyIndex_natCast]
  rcases Nat.le_total x.length a with h | h
  · simp [Nat.min_eq_right h, List.drop_eq_nil_of_le h]
  · rw [Nat.min_eq_left h, List.take_eq_take, List.length_drop]
    omega

/-- `x[a:b] = v`: the rows of the slice replaced by `v`, which is broadcast when it has one row. -/
def setSlice (x : List α) (a b : Int) (v : List α) : Except Error (List α) :=
  let i := pyIndex a x.length
  let n := pyIndex b x.length - i
  if v.length = n then .ok (x.take i ++ v ++ x.drop (i + n))
  else match v with
    | [y] => .ok (x.take i ++ List.replicate n y ++ x.drop (i + n))
    | _ => .error (.expandMismatch n v.length)

theorem setSlice_natCast {x v : List α} {a n : Nat} (hx : a + n ≤ x.length) (hv : v.length = n) :
    setSlice x a (a + n : Nat) v = .ok (x.take a ++ v ++ x.drop (a + n)) := by
  have hi : min a x.length = a := by omega
  have hn : min (a + n) x.length - a = n := by omega
  simp only [setSlice, pyIndex_natCast, hi, hn, hv, if_true]

/-! ### Padding and fresh tensors -/

/-- `F.pad(x, (0, 0, 0, p))`: `p` zero rows appended, or `-p` rows cut from the end when `p < 0`. -/
def padRows [Zero α] (x : List α) (p : Int) : Except Error (List α) :=
  if 0 ≤ p then .ok (x ++ List.replicate p.toNat 0)
  else if (-p).toNat ≤ x.length then .ok (x.take (x.length - (-p).toNat))
  else .error .negativeSize

@[simp] theorem padRows_natCast [Zero α] (x : List α) (p : Nat) :
    padRows x p = .ok (x ++ List.replicate p 0) := by
  rw [padRows, if_pos (by omega)]
  simp

/-- `torch.zeros((n, hidden_dim))`. -/
def zeros [Zero α] (n : Int) : Except Error (List α) :=
  if 0 ≤ n then .ok (List.replicate n.toNat 0) else .error .negativeSize

@[simp] theorem zeros_natCast [Zero α] (n : Nat) : (zeros n : Except Error (List α)) = .ok (List.replicate n 0) := by
  rw [zeros, if_pos (by omega)]
  simp

/-! ### Arithmetic -/

/-- `a + b`, broadcasting an operand of one row over the rows of the other. -/
def add [Add α] (a b : List α) : Except Error (List α) :=
  if a.length = b.length then .ok (List.zipWith (· + ·) a b)
  else match a, b with
    | [x], b => .ok (b.map (x + ·))
    | a, [y] => .ok (a.map (· + y))
    | a, b => .error (.sizeMismatch a.length b.length)

theorem add_of_length_eq [Add α] {a b : List α} (h : a.length = b.length) :
    add a b = .ok (List.zipWith (· + ·) a b) :=
  if_pos h

/-- The elementwise sum of tensors of `n` rows: what an all-reduce gives. -/
def sumRows [AddCommMonoid α] (n : Nat) (xs : List (List α)) : List α :=
  (List.range n).map fun i => (xs.map fun x => x.getD i 0).sum

@[simp] theorem length_sumRows [AddCommMonoid α] (n : Nat) (xs : List (List α)) : (sumRows n xs).length = n := by
  simp [sumRows]

/-! ### Selection -/

/-- `x[mask, :]`: the rows where the mask is true, in order. -/
def maskSelect (x : List α) (mask : List Bool) : Except Error (List α) :=
  if mask.length = x.length then .ok (((x.zip mask).filter (·.2)).map (·.1))
  else .error (.maskMismatch mask.length x.length)

/-- `xs[i]` on a tuple or a one-dimensional tensor. -/
def getItem (xs : List β) (i : Nat) : Except Error β :=
  match xs[i]? with
  | some x => .ok x
  | none => .error (.indexOutOfRange i xs.length)

theorem getItem_of_lt {xs : List β} {i : Nat} (h : i < xs.length) : getItem xs i = .ok xs[i] := by
  simp [getItem, List.getElem?_eq_getElem h]

/-- `torch.chunk(x, k, dim=0)`: pieces of `ceil(n / k)` rows with a shorter last one, so that fewer than
    `k` pieces come out when `n` is not large enough; an empty tensor gives `k` empty pieces. -/
def chunk (x : List α) (k : Nat) : List (List α) :=
  if x.length = 0 then List.replicate k []
  else
    let c := (x.length + k - 1) / k
    (List.range ((x.length + c - 1) / c)).map fun i => (x.drop (i * c)).take c

end DeepseekAscend
