import A9N.Framework.Ranges
import Mathlib.Data.List.Basic
import Mathlib.Tactic.Ring

/-!
# Checked access to bytes

A run over untrusted bytes is modelled with the window it may access: an access outside stops it
with a fault, and so does a loop that uses up the rounds it was given. A run that returns has therefore
read the window only, and has ended.
-/

namespace A9N

inductive Fault
  | outside | unfinished
deriving DecidableEq, Repr

abbrev Checked := Except Fault

def Returns {α : Type} (run : Checked α) (P : α → Prop) : Prop := ∃ value, run = .ok value ∧ P value

section Returns

variable {α β : Type} {P : α → Prop} {Q : β → Prop} {run : Checked α}

theorem Returns.bind {next : α → Checked β} (h : Returns run P)
    (hnext : ∀ value, P value → Returns (next value) Q) : Returns (run >>= next) Q := by
  obtain ⟨value, rfl, hvalue⟩ := h
  exact hnext value hvalue

theorem Returns.branch {test : Checked Bool} {T : Bool → Prop} {yes no : Checked β}
    (h : Returns test T) (hyes : T true → Returns yes Q) (hno : Returns no Q) :
    Returns (test >>= fun found => if found = true then yes else no) Q := by
  refine h.bind fun found hfound => ?_
  split
  case isTrue htrue => exact hyes (htrue ▸ hfound)
  case isFalse => exact hno

theorem Returns.mono {P' : α → Prop} (h : Returns run P) (himp : ∀ value, P value → P' value) :
    Returns run P' := by
  obtain ⟨value, hrun, hvalue⟩ := h
  exact ⟨value, hrun, himp value hvalue⟩

theorem returns_bind_iff {next : α → Checked β} :
    Returns (run >>= next) Q ↔ Returns run fun value => Returns (next value) Q := by
  constructor
  · intro h
    cases run with
    | error fault =>
      obtain ⟨_, heq, -⟩ := h
      cases heq
    | ok value => exact ⟨value, rfl, h⟩
  · exact fun h => h.bind fun _ hvalue => hvalue

@[simp] theorem returns_ok_iff {value : α} : Returns (.ok value) P ↔ P value := by
  simp [Returns]

@[simp] theorem returns_pure_iff {value : α} : Returns (pure value) P ↔ P value := returns_ok_iff

@[simp] theorem returns_map_iff {f : α → β} :
    Returns (f <$> run) Q ↔ Returns run fun value => Q (f value) := by
  rw [map_eq_pure_bind, returns_bind_iff]
  simp

@[simp] theorem not_returns_error (fault : Fault) : ¬ Returns (.error fault : Checked α) P := by
  rintro ⟨_, heq, -⟩
  cases heq

def scan {σ ρ : Type} (visit : α → σ → Checked (Except ρ σ)) : List α → σ → Checked (Except ρ σ)
  | [], state => return .ok state
  | item :: rest, state => do
    match ← visit item state with
    | .error result => return .error result
    | .ok state => scan visit rest state

theorem returns_scan {σ ρ : Type} {visit : α → σ → Checked (Except ρ σ)} {items : List α}
    {I : List α → σ → Prop} {Q : Except ρ σ → Prop}
    (hstep : ∀ visited item rest state, visited ++ item :: rest = items → I visited state →
      Returns (visit item state) fun
        | .error result => Q (.error result)
        | .ok state => I (visited ++ [item]) state)
    (hend : ∀ state, I items state → Q (.ok state)) {state : σ} (hstart : I [] state) :
    Returns (scan visit items state) Q := by
  suffices h : ∀ rest visited state, visited ++ rest = items → I visited state →
      Returns (scan visit rest state) Q from h items [] state rfl hstart
  intro rest
  induction rest with
  | nil =>
    intro visited state hitems hvisited
    rw [List.append_nil] at hitems
    exact returns_pure_iff.mpr (hend state (hitems ▸ hvisited))
  | cons item rest ih =>
    intro visited state hitems hvisited
    refine (hstep visited item rest state hitems hvisited).bind fun result hresult => ?_
    cases result with
    | error result => exact returns_pure_iff.mpr hresult
    | ok state => exact ih (visited ++ [item]) state (by simpa using hitems) hresult

end Returns

structure Window where
  bytes : Nat → BitVec 8
  start : Nat
  stop : Nat

/-- The number that `count` bytes stand for, the least significant one first. -/
def littleAt (bytes : Nat → BitVec 8) : Nat → Nat → Nat
  | 0, _ => 0
  | count + 1, address => (bytes address).toNat + 256 * littleAt bytes count (address + 1)

def bigAt (bytes : Nat → BitVec 8) : Nat → Nat → Nat
  | 0, _ => 0
  | count + 1, address => (bytes address).toNat * 256 ^ count + bigAt bytes count (address + 1)

theorem littleAt_lt (bytes : Nat → BitVec 8) (count address : Nat) :
    littleAt bytes count address < 256 ^ count := by
  induction count generalizing address with
  | zero => simp [littleAt]
  | succ count ih =>
    have hlow := (bytes address).isLt
    have hhigh := ih (address + 1)
    rw [littleAt, pow_succ']
    omega

namespace Window

def byte (window : Window) (address : Nat) : Checked (BitVec 8) :=
  if window.start ≤ address ∧ address < window.stop then .ok (window.bytes address)
  else .error .outside

def little (window : Window) : Nat → Nat → Checked Nat
  | 0, _ => .ok 0
  | count + 1, address => do
    let low ← window.byte address
    let high ← window.little count (address + 1)
    return low.toNat + 256 * high

def big (window : Window) : Nat → Nat → Checked Nat
  | 0, _ => .ok 0
  | count + 1, address => do
    let high ← window.byte address
    let low ← window.big count (address + 1)
    return high.toNat * 256 ^ count + low

def boundedStringEquals (window : Window) (table tableSize : Nat) : Nat → List Char → Checked Bool
  | index, [] =>
    if index < tableSize then do
      let byte ← window.byte (table + index)
      return byte == 0
    else return false
  | index, char :: name =>
    if index < tableSize then do
      let byte ← window.byte (table + index)
      if byte.toNat = char.toNat then window.boundedStringEquals table tableSize (index + 1) name
      else return false
    else return false

variable {window : Window} {address count : Nat}

@[simp] theorem returns_byte_iff {P : BitVec 8 → Prop} (hstart : window.start ≤ address) :
    Returns (window.byte address) P ↔ address < window.stop ∧ P (window.bytes address) := by
  unfold byte
  simp only [hstart, true_and]
  split
  case isTrue h => simp [h]
  case isFalse h => simp [h]

section

variable {P : Nat → Prop} (hstart : window.start ≤ address)
include hstart

@[simp] theorem returns_little_iff : Returns (window.little (count + 1) address) P ↔
      address + count < window.stop ∧ P (littleAt window.bytes (count + 1) address) := by
  induction count generalizing address P with
  | zero =>
    rw [little, returns_bind_iff, returns_byte_iff hstart]
    simp [little, littleAt]
  | succ count ih =>
    rw [little, returns_bind_iff, returns_byte_iff hstart, returns_bind_iff, ih (by omega)]
    rw [littleAt]
    simp only [returns_pure_iff, ← and_assoc]
    refine and_congr_left fun _ => ?_
    omega

theorem returns_little
    (hstop : address + count ≤ window.stop) (h : P (littleAt window.bytes count address)) :
    Returns (window.little count address) P := by
  cases count with
  | zero => exact returns_ok_iff.mpr h
  | succ count => exact (returns_little_iff hstart).mpr ⟨by omega, h⟩

theorem returns_big
    (hstop : address + count ≤ window.stop) (h : P (bigAt window.bytes count address)) :
    Returns (window.big count address) P := by
  induction count generalizing address P with
  | zero => exact returns_ok_iff.mpr h
  | succ count ih =>
    rw [big, returns_bind_iff, returns_byte_iff hstart, returns_bind_iff]
    exact ⟨by omega, ih (by omega) (by omega) (returns_pure_iff.mpr h)⟩

end

theorem returns_boundedStringEquals {table tableSize : Nat} (hstart : window.start ≤ table)
    (hstop : table + tableSize ≤ window.stop) (index : Nat) (name : List Char) :
    Returns (window.boundedStringEquals table tableSize index name) fun _ => True := by
  induction name generalizing index with
  | nil =>
    rw [boundedStringEquals]
    split
    · rw [returns_bind_iff, returns_byte_iff (by omega)]
      exact ⟨by omega, by simp⟩
    · simp
  | cons char name ih =>
    rw [boundedStringEquals]
    split
    · rw [returns_bind_iff, returns_byte_iff (by omega)]
      refine ⟨by omega, ?_⟩
      split
      · exact ih (index + 1)
      · simp
    · simp

end Window

def store {α : Type} (capacity : Nat) (table : List α) (entry : α) : Checked (List α) :=
  if table.length < capacity then .ok (table ++ [entry]) else .error .outside

theorem returns_store {α : Type} {capacity : Nat} {table : List α}
    (h : table.length < capacity) (entry : α) :
    Returns (store capacity table entry) fun table => table.length ≤ capacity := by
  simp [store, h]

def fetch {α : Type} (table : List α) (index : Nat) : Checked α :=
  table[index]?.elim (.error .outside) .ok

theorem returns_fetch {α : Type} {table : List α} {index : Nat} (h : index < table.length) :
    Returns (fetch table index) fun _ => True := by
  simp [fetch, h]

end A9N
