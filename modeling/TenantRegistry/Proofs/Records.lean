/-
TenantRegistry/Proofs/Records.lean

What is written of a record tells the record.

A record leaves the program in two layouts: as compact text, where storage
keeps it, and over several lines, where a command prints it.  Either text is
read back as the value that it was written from, whatever its strings, labels
and numbers are.  This holds of the rows of every table and of everything that
stands within them, because it holds of every type with a written form.

Main result: `read_back`.  No two values have one text (`toCompact_injective`,
`toPretty_injective`).
-/
import TenantRegistry.Command
import TenantRegistry.Proofs.Storage.Contents

namespace TenantRegistry

variable {α : Type} [HasLayout α]

/-- A value is read back from compact text. -/
theorem decode_toCompact (value : α) :
    (Json.parse (encode value).toCompact).bind decode = some value :=
  HasLayout.layout.parse_compact value

/-- A value is read back from text over several lines. -/
theorem decode_toPretty (value : α) :
    (Json.parse (encode value).toPretty).bind decode = some value := by
  have hblanks : Json.Blanks "".toList := by simp [Json.Blanks]
  have hread := HasLayout.layout.parse_pretty value hblanks
  rwa [String.append_empty] at hread

/-- What a command prints ends with a line break, which the reader passes over. -/
theorem decode_printed (value : α) :
    (Json.parse (Command.printed (encode value))).bind decode = some value :=
  HasLayout.layout.parse_pretty value (by simp [Json.Blanks, Json.isBlank])

/-- No two values of a type have one compact text. -/
theorem toCompact_injective : Function.Injective fun value : α => (encode value).toCompact := by
  intro a b h
  have hread := decode_toCompact a
  rw [show (encode a).toCompact = (encode b).toCompact from h, decode_toCompact b] at hread
  exact (Option.some.inj hread).symm

/-- No two values of a type have one text over several lines. -/
theorem toPretty_injective : Function.Injective fun value : α => (encode value).toPretty := by
  intro a b h
  have hread := decode_toPretty a
  rw [show (encode a).toPretty = (encode b).toPretty from h, decode_toPretty b] at hread
  exact (Option.some.inj hread).symm

/-- **A row is read back from what storage keeps of it, and every value from
what a command prints of it.** -/
theorem read_back :
    (∀ (table : Table) (row : table.Row), Durable.read table (Durable.write table row) = .ok row) ∧
      ∀ {α : Type} [HasLayout α] (value : α),
        (Json.parse (encode value).toCompact).bind decode = some value ∧
        (Json.parse (encode value).toPretty).bind decode = some value ∧
        (Json.parse (Command.printed (encode value))).bind decode = some value := by
  refine ⟨fun table row => Durable.read_write table row, fun value => ⟨?_, ?_, ?_⟩⟩
  · exact decode_toCompact value
  · exact decode_toPretty value
  · exact decode_printed value

end TenantRegistry
