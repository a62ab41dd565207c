import SqlMapper.Entity.Basic
/-!
# SqlMapper.Entity.Catalogue

A small catalogue of entity classes that exercises what a mapping can look like: a generated key, a
foreign key, a renamed column, a composite key, a class without a table and a plain class.
-/

namespace SqlMapper.Catalogue

/-- A generated integer key. -/
def generatedKey : Field :=
  { name := "id", column := "id", type := .integer, default := .empty, optional := true,
    nullable := false, key := true, maxLength := none }

/-- A text that has to be given. -/
def requiredText (name : String) (maxLength : Option Nat) : Field :=
  { name, column := name, type := .text, default := .required, optional := false,
    nullable := false, key := false, maxLength }

/-- An integer that has to be given. -/
def requiredInteger (name : String) : Field :=
  { name, column := name, type := .integer, default := .required, optional := false,
    nullable := false, key := false, maxLength := none }

/-- A text that may be absent. -/
def optionalText (name : String) (maxLength : Option Nat) : Field :=
  { name, column := name, type := .text, default := .empty, optional := true,
    nullable := true, key := false, maxLength }

/-- An integer that is 0 unless given. -/
def countingInteger (name : String) : Field :=
  { requiredInteger name with default := .integer 0 }

/-- People, by a generated key. -/
def person : EntityClass :=
  { name := "Person", kind := .table "person",
    fields := [generatedKey, requiredText "name" (some 64), countingInteger "age",
      optionalText "email" (some 128)] }

/-- Pets and their owners. -/
def pet : EntityClass :=
  { name := "Pet", kind := .table "pet",
    fields := [generatedKey, requiredInteger "owner_id", requiredText "nickname" none] }

/-- Accounts, whose name is kept in a column of another name. -/
def account : EntityClass :=
  { name := "Account", kind := .table "helper_account",
    fields := [generatedKey,
      { requiredText "name" none with column := "full_name", nullable := true },
      optionalText "email" none] }

/-- Pairs, by a key of two columns. -/
def pair : EntityClass :=
  { name := "Pair", kind := .table "pair",
    fields := [{ requiredInteger "b" with key := true }, { requiredText "a" none with key := true },
      optionalText "note" none] }

/-- What a caller may say about a person; not stored. -/
def personIn : EntityClass :=
  { name := "PersonIn", kind := .record, fields := [requiredText "name" none, countingInteger "age"] }

/-- A plain pair of an id and a name. -/
def row : EntityClass :=
  { name := "Row", kind := .plain,
    fields := [{ requiredInteger "id" with nullable := true }, optionalText "name" none] }

/-- The classes that are mapped to tables. -/
def mapped : List EntityClass := [person, pet, account, pair]

/-- All classes. -/
def all : List EntityClass := mapped ++ [personIn, row]

/-- The class of a given name. -/
def find? (name : String) : Option EntityClass := all.find? (·.name == name)

end SqlMapper.Catalogue
