import Mathlib.Algebra.Group.Nat.Defs
import StreamVerdict.Configuration.Text
import StreamVerdict.Proofs.Configuration.Format
import StreamVerdict.Proofs.Json.RoundTrip
import StreamVerdict.Proofs.Toml.Document

/-!
# Plans are read back

A plan is written as a tree, and the tree as a text. Both formats give back the
tree, one of them with the members of records in another order; and from every
such tree the same plan is read. So nothing of a plan is lost: each field that is
left out of a text has the value that it is given where it is missing, and each
alternative is read back as itself, although others are tried before it.

JSON has room for every plan. TOML has room for those whose numbers fit in 64
bits with a sign.

Main results:

* `Plan.ofJson_write` — from JSON;
* `Plan.exists_toToml_iff` / `Plan.ofToml_toToml` — to TOML, and back;
* `Plan.round_trip` — a plan is kept by both formats.
-/

namespace StreamVerdict.Plan

/-- Every plan is read back from its JSON text. -/
theorem ofJson_write (p : Plan) : ofJson (Json.write p.toTree) = .ok p := by
  -- every number in a plan has 64 bits
  have hWords : ∀ i ∈ p.toTree.ints, i ≤ Text.maxWord := by
    rw [ints_toTree, List.forall_mem_map]
    intro n _
    have hlt : n.toNat < UInt64.size := n.toNat_lt
    have hMax : Text.maxWord = UInt64.size - 1 := rfl
    omega
  have hDepth : 6 ≤ Json.maxDepth := by decide
  have hTree : Json.read (Json.write p.toTree) = some p.toTree :=
    Json.read_write p.regular_toTree hDepth hWords
  have hPlan : ofTree? Json.style p.toTree = some p :=
    p.reads_toTree Json.style _ (.refl _)
  rw [ofJson, Json.decode?, hTree, Option.bind_some, hPlan]

/-- A plan is written as TOML exactly if its numbers fit in 64 bits with a sign. -/
theorem exists_toToml_iff (p : Plan) :
    (∃ s, p.toToml = .ok s) ↔ ∀ n ∈ p.integers, n.toNat ≤ 2 ^ 63 - 1 := by
  have hOk : (∃ s, p.toToml = .ok s) ↔ (Toml.write p.toTree).isSome := by
    rw [toToml]
    cases Toml.write p.toTree <;> simp
  have hHalf : Text.signedHalf = 2 ^ 63 := rfl
  rw [hOk, toTree, Toml.isSome_write_iff p.regular_toTree, ← toTree, ints_toTree,
    List.forall_mem_map]
  refine forall₂_congr fun n _ => ?_
  omega

/-- A plan is read back from its TOML text. -/
theorem ofToml_toToml {p : Plan} {s : String} (h : p.toToml = .ok s) : ofToml s = .ok p := by
  have hWritten : Toml.write p.toTree = some s := by
    rw [toToml] at h
    cases hWrite : Toml.write p.toTree with
    | none => rw [hWrite] at h; cases h
    | some s' => rw [hWrite] at h; cases h; rfl
  have hDepth : 6 < Toml.nestingLimit := by decide
  obtain ⟨t, hRead, hAlike⟩ := Toml.read_write p.regular_toTree hDepth hWritten
  have hPlan : ofTree? Toml.style t = some p := p.reads_toTree Toml.style t hAlike
  rw [ofToml, hRead, Option.bind_some, hPlan]

/-- **A plan is kept by both formats.** From its JSON text every plan is read
back as it was. It can be written as TOML exactly if its numbers are at most
2⁶³ - 1, and is then read back as it was. -/
theorem round_trip (p : Plan) :
    ofJson (Json.write p.toTree) = .ok p ∧
    ((∃ s, p.toToml = .ok s) ↔ ∀ n ∈ p.integers, n.toNat ≤ 2 ^ 63 - 1) ∧
    ∀ s, p.toToml = .ok s → ofToml s = .ok p :=
  ⟨p.ofJson_write, p.exists_toToml_iff, fun _ => ofToml_toToml⟩

end StreamVerdict.Plan
