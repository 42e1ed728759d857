/-
TenantRegistry/Proofs/Configuration.lean

A configuration that is written as TOML is read back.

It is written as two sections of plain keys, one line for each setting.  The
lines are read back one by one, whatever the texts in them are, and describe a
table for each section; the settings are found in there.  A path that is not
given has no line, and then none is found.  The only configuration that is not
read back is one that `check` refuses.

Main result: `Configuration.parse_toToml`.
-/
import TenantRegistry.Proofs.Toml.Lines

namespace TenantRegistry

namespace Configuration

open Toml

variable (configuration : Configuration)

/-- The lines that a configuration is written in, the blank one with the line after it. -/
def chunks : List (List Char) :=
  [headerLine "storage", entryLine "backend" (quote configuration.storage.backend.name)] ++
    (configuration.storage.path.toList.map fun path => entryLine "path" (quote path)) ++
    ['\n' :: headerLine "logging", entryLine "filter" (quote configuration.logging.filter),
      entryLine "json" (toString configuration.logging.json).toList]

/-- What these lines say. -/
def lines : List Line :=
  [.header ["storage"], .entry ["backend"] (.text configuration.storage.backend.name)] ++
    (configuration.storage.path.toList.map fun path => .entry ["path"] (.text path)) ++
    [.header ["logging"], .entry ["filter"] (.text configuration.logging.filter),
      .entry ["json"] (.boolean configuration.logging.json)]

theorem toList_toToml : configuration.toToml.toList = configuration.chunks.flatten := by
  rw [toToml, String.toList_ofList, chunks]
  cases configuration.storage.path <;> simp

/-- Every line says what it is to say. -/
theorem says_chunks : List.Forall₂ Says configuration.chunks configuration.lines := by
  have hstorage : Bare "storage" := by decide
  have hbackend : Bare "backend" := by decide
  have hpath : Bare "path" := by decide
  have hlogging : Bare "logging" := by decide
  have hfilter : Bare "filter" := by decide
  have hjson : Bare "json" := by decide
  have hplace : List.Forall₂ Says
      (configuration.storage.path.toList.map fun path => entryLine "path" (quote path))
      (configuration.storage.path.toList.map fun path => .entry ["path"] (.text path)) := by
    cases configuration.storage.path with
    | none => exact .nil
    | some path => exact .cons (says_entryLine hpath (readsAs_quote path)) .nil
  refine List.rel_append (List.rel_append ?_ hplace) ?_
  · exact .cons (says_headerLine hstorage)
      (.cons (says_entryLine hbackend (readsAs_quote _)) .nil)
  · exact .cons (says_headerLine hlogging).after_blank
      (.cons (says_entryLine hfilter (readsAs_quote _))
        (.cons (says_entryLine hjson (readsAs_boolean _)) .nil))

/-- The settings are found in what the lines describe. -/
theorem ofToml_document : (document configuration.lines).bind ofToml = some configuration := by
  obtain ⟨⟨backend, path⟩, ⟨filter, json⟩⟩ := configuration
  cases backend <;> cases path <;> rfl

/-- **A configuration that is written is read back**, whatever its texts are, unless it is of a
durable registry without a path. -/
theorem parse_toToml : parse configuration.toToml =
    if configuration.storage.backend = .database ∧ configuration.storage.path = none then
      .error .noPath
    else .ok configuration := by
  have hmark : withoutMark configuration.toToml.toList = configuration.chunks.flatten := by
    rw [toList_toToml]
    rfl
  have hlines : readLines (configuration.chunks.flatten.length + 1) configuration.chunks.flatten =
      some configuration.lines :=
    readLines_of_says configuration.says_chunks (Nat.lt_succ_self _)
  have hdocument : Toml.parse configuration.toToml = document configuration.lines := by
    rw [Toml.parse, hmark, hlines]
    rfl
  rw [parse, hdocument, ofToml_document]
  rfl

end Configuration

end TenantRegistry
