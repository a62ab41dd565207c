import SqlMapper.Mapper.Statement
/-!
# SqlMapper.Mapper.Loading

Loading a mapping document: from the bytes of a file to the table of its statements.
-/

namespace SqlMapper.Mapper

/-- Entries of unknown kinds are all that a table's document gives rise to in the log. -/
theorem addEntries_events (setting : Setting) (d : Document) :
    ∀ table, ∀ e ∈ (addEntries setting table d).1, ∃ key, e = .unknownType key := by
  induction d with
  | nil =>
      intro table e he
      simp [addEntries] at he
  | cons entry rest ih =>
      intro table e he
      unfold addEntries at he
      split at he
      · rcases List.mem_cons.mp he with rfl | he
        · exact ⟨entry.1, rfl⟩
        · exact ih table e he
      · split at he
        case _ extended _ => exact ih extended e he
        case _ => simp at he

/-- What loading a document comes to: a table or an error, and what is logged on the way. -/
structure Loading where
  events : List Event
  result : Except DocumentError Table
  /-- That a load failed is for others to say. -/
  origin_events : ∀ e ∈ events, e.origin = "mapper.loader"

namespace Loading

/-- How the names of a table are logged. -/
def listedNames (t : Table) : List String := t.map fun s => s.name.text?.getD ""

/-- Load a document that is at hand. -/
def ofDocument (setting : Setting) (d : Document) : Loading where
  events := (Table.ofDocument setting d).1
  result := (Table.ofDocument setting d).2
  origin_events := by
    intro e he
    obtain ⟨key, rfl⟩ := addEntries_events setting d [] e he
    rfl

/-- A loading that logs nothing. -/
def silent (result : Except DocumentError Table) : Loading where
  events := []
  result
  origin_events := by simp

/-- A document that cannot be had, for a reason in words. -/
def withheld (reason : String) : Loading := silent (.error (.withheld reason))

/-- Log the names of a table that has been loaded from a path. -/
def announced (l : Loading) (path : String) : Loading :=
  match l.result with
  | .ok t =>
    { l with
        events := l.events ++ [.loaded path (listedNames t)]
        origin_events := by
          intro e he
          rcases List.mem_append.mp he with he | he
          · exact l.origin_events e he
          · rw [List.mem_singleton.mp he]
            rfl }
  | .error _ => l

/-- Load the document of a path from the bytes found there, if any. -/
def ofFile (setting : Setting) (path : String) (bytes : Option (List UInt8)) : Loading :=
  match bytes.bind Document.read? with
  | none => silent (.error (.unreadable path))
  | some d => (ofDocument setting d).announced path

theorem announced_result (l : Loading) (path : String) : (l.announced path).result = l.result := by
  unfold announced
  split <;> rfl

/-- A file that holds a document comes to the table of its entries. -/
theorem ofFile_result {setting : Setting} {path : String} {bytes : Option (List UInt8)}
    {d : Document} (hd : bytes.bind Document.read? = some d) :
    (ofFile setting path bytes).result = (Table.ofDocument setting d).2 := by
  unfold ofFile
  rw [hd]
  exact announced_result _ path

/-- A loading does not log its failure. -/
theorem loadFailed_not_mem (l : Loading) (path : String) : Event.loadFailed path ∉ l.events := by
  intro h
  have horigin := l.origin_events _ h
  simp [Event.origin] at horigin

end Loading
end SqlMapper.Mapper
