import Mustache.Text.Bytes
import Mustache.Text.Cluster

/-!
# Backspaces

A backspace in a line takes back the cluster that was typed before it. What is kept of a cluster
is its size in bytes, and one byte holds that size, so of a cluster of 256 bytes or more only the
remainder goes.

Main statement: a line without backspaces stays as it is, `applyBackspaces_eq_self`.
-/

namespace Mustache.Text

set_option autoImplicit false

/-- What a line holds so far: its text in reverse, and the sizes of the clusters in it that a
backspace can still take back, newest first. -/
structure Typed where
  text : List Char
  sizes : List Nat

/-- Takes one more cluster of a line. -/
def Typed.add (typed : Typed) (cluster : List Char) : Typed :=
  if cluster = ['\x08'] then
    match typed.sizes with
    | [] => typed
    | size :: sizes => ⟨dropBytes size typed.text, sizes⟩
  else ⟨cluster.reverse ++ typed.text, byteLength cluster % 256 :: typed.sizes⟩

/-- The line that is left when every backspace has taken back what stands before it. -/
def applyBackspaces (line : List Char) : List Char :=
  ((clusters line).foldl Typed.add ⟨[], []⟩).text.reverse

/-- Clusters that are no backspaces are put one behind the other. -/
theorem text_foldl_add (parts : List (List Char)) (typed : Typed)
    (plain : ∀ part ∈ parts, part ≠ ['\x08']) :
    (parts.foldl Typed.add typed).text = parts.flatten.reverse ++ typed.text := by
  induction parts generalizing typed with
  | nil => rfl
  | cons part rest ih =>
    rw [List.foldl_cons, ih _ fun other member => plain other (List.mem_cons_of_mem _ member),
      Typed.add, if_neg (plain part List.mem_cons_self), List.flatten_cons, List.reverse_append,
      List.append_assoc]

/-- A line without backspaces stays as it is. -/
theorem applyBackspaces_eq_self (line : List Char) (plain : '\x08' ∉ line) :
    applyBackspaces line = line := by
  have whole : ∀ part ∈ clusters line, part ≠ ['\x08'] := by
    rintro part member rfl
    apply plain
    rw [← flatten_clusters line]
    exact List.mem_flatten.2 ⟨['\x08'], member, List.mem_singleton.2 rfl⟩
  rw [applyBackspaces, text_foldl_add _ _ whole, flatten_clusters]
  simp

end Mustache.Text
