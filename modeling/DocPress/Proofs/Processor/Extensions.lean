import DocPress.Engine.Echo
import DocPress.Processor
import DocPress.Proofs.Options.ReadingBack

/-!
# The engine extensions of a processor

A processor has the engine extensions of its format, and behind them those that the options
add.  Options may name an extension of the format again, in any spelling: the first of the
names that agree in lower case is kept, and that is the one of the format.  So the format's
extensions are always there as they are written, in order and with their configurations.

Main results:

- `dedupe_append_of_nodup`: names behind others are added if they agree with none of them.
- `configurations_append`: names that agree with no extension of a format are not configured.
- `defaults_stay`: what a processor has for extensions, and what its engine is built with.
-/

namespace DocPress

namespace ExtensionNames

/-- Names behind others are added if they agree with none of them in lower case. -/
theorem dedupe_append_of_nodup {names others : List String} (hnames : (names.map key).Nodup)
    (hothers : (others.map key).Nodup) :
    dedupe (names ++ others) = names ++ others.filter fun name => key name ∉ names.map key := by
  rw [dedupe, dedupeFrom_append, ← dedupe, dedupe_eq_self hnames, List.append_nil,
    dedupeFrom_eq_filter _ hothers]

end ExtensionNames

/-- The names of engine extensions in options that a caller can have are all different in
lower case. -/
theorem Options.Checked.distinct {options : Options} (h : Checked options) :
    (options.markdownExtensions.map ExtensionNames.key).Nodup := by
  have hback := h.readBack.markdownExtensions
  rw [Options.textTuple, Options.readExtensionNames_texts _ (.inr rfl), Except.ok.injEq] at hback
  rw [← hback]
  exact ExtensionNames.dedupe_key_nodup _

namespace DocumentFormat

/-- The engine extensions of a format are all different in lower case. -/
theorem distinct (format : DocumentFormat) :
    (format.engineExtensions.map ExtensionNames.key).Nodup := by
  cases format <;> decide

/-- The configurations of a format's engine extensions: footnotes are numbered for each
document by itself. -/
def configurations : Mapping :=
  [(.text "footnotes", .map [(.text "UNIQUE_IDS", .bool true)])]

theorem mem_configurations_iff {name : String} {configuration : Mapping} :
    (.text name, .map configuration) ∈ configurations ↔
      name = "footnotes" ∧ configuration = [(.text "UNIQUE_IDS", .bool true)] := by
  simp [configurations]

theorem footnotes_mem (format : DocumentFormat) : "footnotes" ∈ format.engineExtensions := by
  cases format <;> decide

/-- Names that agree with no engine extension of a format are not configured. -/
theorem configurations_append (format : DocumentFormat) {names : List String}
    (h : ∀ name ∈ names, ExtensionNames.key name ∉
      format.engineExtensions.map ExtensionNames.key) :
    EngineSetup.of (format.engineExtensions ++ names) =
      ⟨format.engineExtensions ++ names, configurations⟩ := by
  have hsetup : EngineSetup.of (format.engineExtensions ++ names) =
      ⟨format.engineExtensions ++ names, (EngineSetup.of format.engineExtensions).configurations ++
        (EngineSetup.of names).configurations⟩ := by
    simp only [EngineSetup.of, List.filterMap_append]
  have hdefaults : (EngineSetup.of format.engineExtensions).configurations = configurations := by
    cases format <;> rfl
  have hnames : (EngineSetup.of names).configurations = [] := by
    refine List.filterMap_eq_nil_iff.2 fun name hname => ?_
    have hne : name ≠ "footnotes" := by
      rintro rfl
      exact h _ hname (List.mem_map_of_mem format.footnotes_mem)
    rw [configurationOf?, if_neg hne, Option.map_none]
  rw [hsetup, hdefaults, hnames, List.append_nil]

end DocumentFormat

/-! ## The law -/

/-- What a processor has for extensions, and what its engine is built with. -/
structure Processor.Furnished {σ : Type} (E : Engine σ) (options : Options)
    (format : DocumentFormat) (processor : Processor σ) : Prop where
  /-- The extensions of the format come first, as they are and in order, and behind them
  those of the options that agree with none of them in lower case, in order. -/
  extensions_eq : processor.renderer.extensions =
    format.engineExtensions ++ options.markdownExtensions.filter fun name =>
      ExtensionNames.key name ∉ format.engineExtensions.map ExtensionNames.key
  /-- No two of them agree in lower case. -/
  distinct : (processor.renderer.extensions.map ExtensionNames.key).Nodup
  /-- The engine is built with them and with the format's configurations. -/
  built : E.build ⟨processor.renderer.extensions, DocumentFormat.configurations⟩ =
    .ok processor.renderer.engine
  /-- These are the configurations of the format's extensions that have one. -/
  configured_iff : ∀ name configuration,
    (.text name, .map configuration) ∈ DocumentFormat.configurations ↔
      name ∈ format.engineExtensions ∧ configurationOf? name = some configuration

/-- No option displaces an engine extension of the format. -/
theorem Processor.defaults_stay {σ : Type} {E : Engine σ} {plugins : Callable → Plugin}
    {options : Options} (hoptions : options.Checked) {format : DocumentFormat}
    (hformat : options.pinnedFormat? = some format) {processor : Processor σ}
    (h : Processor.create E plugins options = .ok processor) :
    processor.Furnished E options format := by
  obtain ⟨pinned, renderer, hpinned, hrenderer, rfl⟩ := Processor.create_eq_ok_iff.1 h
  obtain rfl : format = pinned := Option.some.inj (hformat.symm.trans hpinned)
  obtain ⟨hextensions, hbuild⟩ := Renderer.create_eq_ok_iff.1 hrenderer
  rw [extensionsFor, ExtensionNames.dedupe_append_of_nodup format.distinct hoptions.distinct]
    at hextensions hbuild
  exact {
    extensions_eq := hextensions
    distinct := by
      rw [hextensions, ← ExtensionNames.dedupe_append_of_nodup format.distinct hoptions.distinct]
      exact ExtensionNames.dedupe_key_nodup _
    built := by
      rw [DocumentFormat.configurations_append format (by simp)] at hbuild
      rw [hextensions]
      exact hbuild
    configured_iff := by
      intro name configuration
      rw [DocumentFormat.mem_configurations_iff]
      constructor
      · rintro ⟨rfl, rfl⟩
        exact ⟨format.footnotes_mem, configurationOf?_footnotes⟩
      · rintro ⟨-, hconfiguration⟩
        rw [configurationOf?] at hconfiguration
        split at hconfiguration
        case isTrue hname => exact ⟨hname, (Option.some.inj hconfiguration).symm⟩
        case isFalse => cases hconfiguration }

/-- Options that name two extensions of the format again, in capitals, and another one twice. -/
def Options.respelled : Mapping :=
  [(.text "markdown_extensions", .list [.text "Tables, TOC toc", .text "FOOTNOTES smarty"]),
    (.text "format", .text "mdx")]

/-- What these options are read as. -/
def Options.respelledNames : Options where
  format := some (.pinned .mdx)
  markdownExtensions := ["Tables", "TOC", "FOOTNOTES", "smarty"]

theorem Processor.defaults_stay_respelled :
    Options.respelledNames.Checked ∧ Options.respelledNames.pinnedFormat? = some .mdx ∧
      ∃ processor,
        Processor.create Echo.engine Plugin.idle Options.respelledNames = .ok processor ∧
        processor.Furnished Echo.engine Options.respelledNames .mdx ∧
        processor.renderer.extensions =
          ["abbr", "attr_list", "def_list", "footnotes", "tables", "pymdownx.superfences",
            "pymdownx.tilde", "md_in_html", "TOC", "smarty"] := by
  have hread : Options.read Options.respelled = .ok Options.respelledNames :=
    Options.read_eq_ok_iff.2 ⟨by decide +kernel, by decide +kernel⟩
  have haccepted : Options.ofInput (.value (.map Options.respelled)) =
      .ok Options.respelledNames := by
    rw [Options.ofInput, hread]
  have hkept : ExtensionNames.dedupe (extensionsFor .mdx Options.respelledNames) =
      ["abbr", "attr_list", "def_list", "footnotes", "tables", "pymdownx.superfences",
        "pymdownx.tilde", "md_in_html", "TOC", "smarty"] := by
    decide +kernel
  have hrenderer : Renderer.create Echo.engine (extensionsFor .mdx Options.respelledNames) =
      .ok ⟨_, _⟩ :=
    Renderer.create_eq_ok_iff.2 ⟨hkept.symm, by rw [hkept]; rfl⟩
  have hcreate : Processor.create Echo.engine Plugin.idle Options.respelledNames = .ok _ :=
    Processor.create_eq_ok_iff.2 ⟨.mdx, _, rfl, hrenderer, rfl⟩
  have hchecked : Options.respelledNames.Checked := .value haccepted
  exact ⟨hchecked, rfl, _, hcreate, defaults_stay hchecked rfl hcreate, rfl⟩

end DocPress
