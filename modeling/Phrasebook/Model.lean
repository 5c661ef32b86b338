/-!
# Phrasebook.Model

What a phrasebook holds: metadata, phrases and nouns.

`Translations` is a map from language codes to texts with its codes in strictly ascending order.
Two maps with the same entries are therefore equal, and every listing of a map is in the order of
the codes.
-/

namespace Phrasebook

/-- Inserts an entry into an association list with ascending keys; it takes the place of one with
the same key. -/
def insertEntry (key value : String) : List (String × String) → List (String × String)
  | [] => [(key, value)]
  | entry :: rest =>
    if key < entry.1 then (key, value) :: entry :: rest
    else if key = entry.1 then (key, value) :: rest
    else entry :: insertEntry key value rest

/-- An inserted entry brings in no key but its own. -/
theorem mem_insertEntry {key value : String} {entries : List (String × String)}
    {e : String × String} (h : e ∈ insertEntry key value entries) :
    e = (key, value) ∨ e ∈ entries := by
  induction entries with
  | nil => simpa [insertEntry] using h
  | cons entry rest ih =>
    simp only [insertEntry] at h
    split at h
    · simpa using h
    · split at h
      · rcases List.mem_cons.1 h with h | h
        · exact Or.inl h
        · exact Or.inr (List.mem_cons_of_mem _ h)
      · rcases List.mem_cons.1 h with h | h
        · exact Or.inr (h ▸ List.mem_cons_self)
        · exact (ih h).imp_right (List.mem_cons_of_mem _)

/-- A list with ascending keys. -/
def Ascending (entries : List (String × String)) : Prop := entries.Pairwise (·.1 < ·.1)

instance (entries : List (String × String)) : Decidable (Ascending entries) :=
  inferInstanceAs (Decidable (List.Pairwise _ _))

/-- Inserting keeps the keys ascending. -/
theorem ascending_insertEntry (key value : String) {entries : List (String × String)}
    (h : Ascending entries) : Ascending (insertEntry key value entries) := by
  induction entries with
  | nil => exact List.pairwise_singleton _ _
  | cons entry rest ih =>
    obtain ⟨hentry, hrest⟩ := List.pairwise_cons.1 h
    simp only [insertEntry]
    split
    · next hlt =>
      refine List.pairwise_cons.2 ⟨fun e he => ?_, h⟩
      rcases List.mem_cons.1 he with rfl | he
      · exact hlt
      · exact String.lt_trans hlt (hentry e he)
    · next hlt =>
      split
      · next heq => exact List.pairwise_cons.2 ⟨fun e he => heq ▸ hentry e he, hrest⟩
      · next hne =>
        refine List.pairwise_cons.2 ⟨fun e he => ?_, ih hrest⟩
        rcases mem_insertEntry he with rfl | he
        · exact Decidable.byContradiction fun hge =>
            hne (String.le_antisymm hge hlt)
        · exact hentry e he

/-- A map from language codes to texts. -/
structure Translations where
  entries : List (String × String)
  ascending : Ascending entries
  deriving DecidableEq, Repr

namespace Translations

/-- The map without entries. -/
def empty : Translations := ⟨[], List.Pairwise.nil⟩

/-- The map with one more text, in the place of the one that its language has so far. -/
def insert (t : Translations) (language text : String) : Translations :=
  ⟨insertEntry language text t.entries, ascending_insertEntry language text t.ascending⟩

/-- The map of a list; of several texts for one language the last one counts. -/
def ofList (entries : List (String × String)) : Translations :=
  entries.foldl (fun t e => t.insert e.1 e.2) empty

/-- The text for a language. -/
def get? (t : Translations) (language : String) : Option String := t.entries.lookup language

/-- The languages of a map, ascending. -/
def languages (t : Translations) : List String := t.entries.map (·.1)

end Translations

/-- What a phrasebook says about itself. -/
structure Metadata where
  /-- The codes of the declared languages that are known, in normal form and in the order of the
  document, repeated ones included. -/
  languages : List String
  /-- Empty if the document gives none. -/
  version : String
  deriving DecidableEq, Repr

/-- Whether a language is declared. -/
def Metadata.supports (m : Metadata) (language : String) : Bool := m.languages.contains language

/-- A sentence with its translations. -/
structure Phrase where
  /-- The identifier made from the English sentence. -/
  key : String
  /-- The sentence in each language; English is always among them. -/
  translations : Translations
  /-- The placeholders of the English sentence. -/
  arguments : List String
  deriving DecidableEq, Repr

/-- A word with its singular and its plural in each language. -/
structure Noun where
  key : String
  singular : Translations
  plural : Translations
  deriving DecidableEq, Repr

/-- What a document holds. -/
structure Book where
  metadata : Metadata
  phrases : List Phrase
  nouns : List Noun
  deriving DecidableEq, Repr

namespace Book

/-- The book of a document that cannot be used. -/
def empty : Book := ⟨⟨[], ""⟩, [], []⟩

/-- The first phrase with a key. -/
def phrase? (b : Book) (key : String) : Option Phrase := b.phrases.find? (·.key == key)

/-- The first noun with a key. -/
def noun? (b : Book) (key : String) : Option Noun := b.nouns.find? (·.key == key)

end Book

end Phrasebook
