import Mathlib.Data.List.TakeWhile
import SqlMapper.Proofs.Text.Pieces
import SqlMapper.Xml.Reader
/-!
# SqlMapper.Proofs.Xml.Names

The names that are read, and how they are written as one text. A name that is read holds no brace (`name_yields`),
nor does its local part (`mem_of_splitName`). So the last brace of its text is the one that closes the namespace, and
names with the same text are the same (`Name.text_inj`).

What a step of the reader may yield is said by `Scan.Yields`, which goes through the steps one after the other.
-/

namespace SqlMapper.Xml

/-! ### Steps of the reader -/

namespace Scan

variable {α β : Type} {P : α → Prop} {Q : β → Prop}

/-- Whatever a step takes from a text has a property. -/
def Yields (P : α → Prop) (step : Scan α) : Prop := ∀ cs a rest, step.run cs = some (a, rest) → P a

theorem Yields.pure {a : α} (h : P a) : Yields P (Pure.pure a : Scan α) := by
  intro cs b rest hb
  cases hb
  exact h

theorem Yields.malformed : Yields P (malformed : Scan α) := by
  intro cs a rest h
  cases h

theorem Yields.bind {step : Scan β} {f : β → Scan α} (h : Yields Q step) (hf : ∀ b, Q b → Yields P (f b)) :
    Yields P (step >>= f) := by
  intro cs a rest ha
  rw [StateT.run_bind] at ha
  obtain ⟨⟨b, between⟩, hb, ha⟩ := Option.bind_eq_some_iff.mp ha
  exact hf b (h cs b between hb) between a rest ha

/-- What comes before does not matter. -/
theorem Yields.after {step : Scan β} {f : β → Scan α} (hf : ∀ b, Yields P (f b)) : Yields P (step >>= f) :=
  Yields.bind (Q := fun _ => True) (fun _ _ _ _ => trivial) fun b _ => hf b

theorem Yields.of_runAll {step : Scan α} (h : Yields P step) {cs : List Char} {a : α}
    (ha : runAll step cs = some a) : P a := by
  unfold runAll at ha
  split at ha
  case _ a' hrun =>
      cases ha
      exact h cs a [] hrun
  case _ => cases ha

theorem takeWhile_yields (p : Char → Bool) : Yields (fun taken => ∀ c ∈ taken, p c = true) (takeWhile p) := by
  intro cs taken rest h
  cases h
  exact fun c hc => List.mem_takeWhile_imp hc

end Scan

open Scan

/-! ### Names as they are read -/

/-- A text without the brace that closes a namespace. -/
def Braceless (s : String) : Prop := '\x7d' ∉ s.toList

theorem name_yields : Yields Braceless name := by
  unfold name
  refine .after fun next => ?_
  split
  case h_1 =>
      refine .after fun _ => .bind (takeWhile_yields insideName) fun taken inside => .pure fun hbrace => ?_
      rw [String.toList_ofList] at hbrace
      exact absurd (inside _ hbrace) (by decide)
  case h_2 => exact .malformed

/-- The local part of a name is made of its characters. -/
theorem mem_of_splitName {qname leading label : String} (h : splitName qname = some (leading, label)) {c : Char}
    (hc : c ∈ label.toList) : c ∈ qname.toList := by
  -- in every case the local part is a piece of the name
  have piece : label.toList ∈ Text.splitAt [':'] none qname.toList := by
    unfold splitName at h
    split at h
    case h_1 hpieces =>
        cases h
        rw [hpieces, String.toList_ofList]
        exact List.mem_cons_self
    case h_2 hpieces =>
        split at h
        case h_1 =>
            split at h
            case isTrue =>
                cases h
                rw [hpieces, String.toList_ofList]
                exact List.mem_cons_of_mem _ List.mem_cons_self
            case isFalse => cases h
        case h_2 => cases h
    case h_3 => cases h
  exact Text.mem_of_mem_splitAt piece hc

theorem Braceless.of_splitName {qname leading label : String} (hqname : Braceless qname)
    (h : splitName qname = some (leading, label)) : Braceless label :=
  fun hbrace => hqname (mem_of_splitName h hbrace)

/-! ### Names as texts -/

theorem Name.toList_text (n : Name) :
    n.text.toList = if n.space = "" then n.label.toList else '\x7b' :: (n.space.toList ++ '\x7d' :: n.label.toList) := by
  unfold Name.text
  by_cases h : n.space = ""
  · simp [h]
  · simp [h]

/-- The text of a name tells its namespace and its local part. -/
theorem Name.text_inj {n m : Name} (hn : Braceless n.label) (hm : Braceless m.label) (h : n.text = m.text) :
    n = m := by
  obtain ⟨space, label⟩ := n
  obtain ⟨space', label'⟩ := m
  have hlists := congrArg String.toList h
  rw [toList_text, toList_text] at hlists
  dsimp only at hn hm hlists
  split at hlists
  case isTrue hspace =>
      split at hlists
      case isTrue hspace' => rw [hspace, hspace', String.toList_inj.mp hlists]
      case isFalse =>
          -- a name in a namespace has a brace, and one in no namespace has none
          refine absurd ?_ hn
          rw [hlists]
          exact List.mem_cons_of_mem _ (List.mem_append_right _ List.mem_cons_self)
  case isFalse =>
      split at hlists
      case isTrue =>
          refine absurd ?_ hm
          rw [← hlists]
          exact List.mem_cons_of_mem _ (List.mem_append_right _ List.mem_cons_self)
      case isFalse =>
          obtain ⟨hspaces, hlabels⟩ := Text.append_cons_inj hn hm (List.cons.inj hlists).2
          rw [String.toList_inj.mp hspaces, String.toList_inj.mp hlabels]

end SqlMapper.Xml
