/-
How a configuration is loaded. At the bottom lies what a file describes
or, without a file, the preset of an environment (`Base`); on it lie the
variables and on these the options. The configuration is judged twice,
with the variables only and once more with the options on top
(`config_eq`). So what lies below a variable cannot make loading fail,
but what lies below an option can: the options come too late to mend it
(`config_layered`).
-/
import FlatQuery.Proofs.Config.Layers
import FlatQuery.Proofs.Config.Usable

namespace FlatQuery

open Text Result

namespace Config

/-- What the layers lie on: what the file says or, without a file, the
preset of the environment that the variables choose. -/
inductive Base (disk : Disk) (vars : Variables) : Option String → Config → Prop where
  | file {path text : String} {c : Config} (hread : disk.readText path = .ok text)
      (hspells : (Json.parse? text).bind File.config? = some c) : Base disk vars (some path) c
  | preset {environment : Environment}
      (h : Environment.parse ((vars "POLLYDB_ENV").getD "development") = .ok environment) :
      Base disk vars none (preset environment)

end Config

namespace Cli

open Config

variable {disk : Disk} {vars : Variables} {o : Options} {base : Config} {l : Layer}

/-- The options as a layer. They can say that there is no header, but not
that there is one, and nothing of the limit. -/
def Options.layer (o : Options) : Layer where
  directory := o.directory
  separator := o.separator
  quote := o.quote
  encoding := o.encoding
  hasHeader := if o.noHeader then some false else none
  maxCombinations := none
  logLevel := o.logLevel

/-- The options of a command line are the settings of their layer. -/
theorem Options.settings_eq (o : Options) : o.settings = o.layer.settings := by
  have hheader : (if o.noHeader then [Setting.header false] else [])
      = (o.layer.hasHeader.map .header).toList := by
    unfold layer
    cases o.noHeader with
    | true => rfl
    | false => rfl
  have hlimit : (o.layer.maxCombinations.map Setting.maxCombinations).toList = [] := rfl
  rw [settings, hheader, Layer.settings, hlimit, List.append_nil]
  rfl

/-- What is being done until the options apply. -/
def Options.loading (o : Options) : String :=
  match o.config with
  | some path => s!"cannot load config {path}"
  | none => "invalid environment configuration"

/-- What the options are laid on is the file or the preset, with the
environment above it, and checked. -/
theorem baseConfig_eq (hbase : Base disk vars o.config base) (hl : l.WrittenIn vars) :
    baseConfig disk vars o = during o.loading (l.atop base).validated := by
  have htaken : base.override vars = .ok (l.atop base) := override_eq_ok.2 ⟨l, hl, rfl⟩
  unfold baseConfig Options.loading
  generalize o.config = config at hbase
  cases hbase with
  | file hread hspells =>
      dsimp only
      unfold File.load
      rw [hread]
      dsimp only
      rw [hspells]
      dsimp only
      rw [htaken]
      rfl
  | preset h =>
      dsimp only
      unfold fromVariables
      rw [h, ok_bind, htaken]
      rfl

/-- The configuration is that of all layers, once it has been judged
without the options and with them. -/
theorem config_eq (hbase : Base disk vars o.config base) (hl : l.WrittenIn vars) :
    config disk vars o = do
      during o.loading (l.atop base).validate
      during "invalid configuration" ((o.layer.on l).atop base).validate
      return (o.layer.on l).atop base := by
  unfold config
  rw [baseConfig_eq hbase hl, Layer.on_atop, ← setAll_settings o.layer, ← Options.settings_eq]
  unfold validated
  cases (l.atop base).validate with
  | error e => rfl
  | ok u =>
      show during _ (((l.atop base).setAll o.settings).validate.map _) = _
      cases ((l.atop base).setAll o.settings).validate with
      | error e => rfl
      | ok u => rfl

/-- The configuration has in every field the value of the highest layer
that names it. It is loaded exactly if it is usable, and usable without
the options as well; the first of the two that is not is the error. What
lies below a variable has no part in it: below the options only what is
seen there counts. -/
theorem config_layered (hbase : Base disk vars o.config base) (hl : l.WrittenIn vars) :
    (∀ c, config disk vars o = .ok c
      ↔ (l.atop base).validate = .ok () ∧ ((o.layer.on l).atop base).validate = .ok ()
        ∧ c = (o.layer.on l).atop base)
    ∧ (∀ e, (l.atop base).validate = .error e → config disk vars o = .error ⟨o.loading, e⟩)
    ∧ (∀ e, (l.atop base).validate = .ok () → ((o.layer.on l).atop base).validate = .error e →
        config disk vars o = .error ⟨"invalid configuration", e⟩)
    ∧ ∀ disk' vars' base' l', Base disk' vars' o.config base' → Layer.WrittenIn l' vars' →
        l'.atop base' = l.atop base → config disk' vars' o = config disk vars o := by
  have hconfig := config_eq hbase hl
  refine ⟨fun c => ?_, fun e he => ?_, fun e hlower he => ?_, ?_⟩
  -- the lower layers are validated first, and the arguments only on top of
  -- what passed
  · rw [hconfig]
    cases (l.atop base).validate with
    | error e => exact iff_of_false nofun fun h => nomatch h.1
    | ok u =>
        cases ((o.layer.on l).atop base).validate with
        | error e => exact iff_of_false nofun fun h => nomatch h.2.1
        | ok u =>
            exact ⟨fun h => ⟨rfl, rfl, (Except.ok.inj h).symm⟩, fun h => congrArg _ h.2.2.symm⟩
  · rw [hconfig, he]
    rfl
  · rw [hconfig, hlower, he]
    rfl
  -- what the layers come to is all that is looked at
  · intro disk' vars' base' l' hbase' hl' hsame
    rw [hconfig, config_eq hbase' hl', Layer.on_atop, Layer.on_atop, hsame]

/-- A file that cannot be used: one symbol for two purposes, joins
without combinations, and a level that no log has. -/
def brokenFile : String :=
  "[\"production\", [\"/srv\", \"'\", \"'\", true], [0], [\"loud\", \"json\"]]"

/-- Variables that mend it. The general one for the level of the log does
not count beside the engine's own. -/
def mendingVariables : Variables := fun name =>
  [("POLLYDB_SEPARATOR", ","), ("POLLYDB_MAX_COMBINATIONS", "+0500"),
    ("POLLYDB_LOG_LEVEL", "warn"), ("LOG_LEVEL", "deafening")].lookup name

def mendingLayer : Layer := ⟨none, some ',', none, none, none, some (some 500), some "warn"⟩

def fileOptions : Options :=
  { Options.empty with
    sql := some "select * from t", config := some "t", quote := some '"', noHeader := true }

theorem writtenIn_mendingVariables : mendingLayer.WrittenIn mendingVariables :=
  have hlimit : SpellsLimit "+0500" (some (Numeral.natOf ['0', '5', '0', '0'])) :=
    .limited (.inr rfl) (by decide) (List.all_eq_true.1 rfl) (by decide)
  ⟨rfl, rfl, rfl, rfl, rfl, .some hlimit, rfl⟩

/-- The three layers together are a configuration. -/
theorem config_layered_mended :
    config (Scan.diskOf brokenFile) mendingVariables fileOptions
      = .ok ⟨.production, ⟨"/srv", ',', '"', false, "utf-8"⟩, some 500, "warn", "json"⟩ := by
  have hread : (Scan.diskOf brokenFile).readText "t" = .ok brokenFile :=
    eq_ok_of_toOption (by decide +kernel)
  have hspells : (Json.parse? brokenFile).bind File.config?
      = some ⟨.production, ⟨"/srv", '\'', '\'', true, "utf-8"⟩, some 0, "loud", "json"⟩ := by
    decide +kernel
  have hbase : Base (Scan.diskOf brokenFile) mendingVariables fileOptions.config
      ⟨.production, ⟨"/srv", '\'', '\'', true, "utf-8"⟩, some 0, "loud", "json"⟩ :=
    .file hread hspells
  obtain ⟨hloaded, -⟩ := config_layered hbase writtenIn_mendingVariables
  refine (hloaded _).2 ⟨?_, ?_, rfl⟩
  · exact eq_ok_of_toOption (by decide +kernel)
  · exact eq_ok_of_toOption (by decide +kernel)

/-- A separator that is the default quote. -/
def quoteVariables : Variables := fun name => [("POLLYDB_SEPARATOR", "\"")].lookup name

def quoteLayer : Layer := ⟨none, some '"', none, none, none, none, none⟩

def commaOptions : Options :=
  { Options.empty with sql := some "select * from t", separator := some ',' }

/-- The option replaces the separator by one that can be used, and the
replaced one is the error. -/
theorem replaced_separator_refused :
    Base Disk.empty quoteVariables commaOptions.config (preset .development)
      ∧ quoteLayer.WrittenIn quoteVariables
      ∧ ((commaOptions.layer.on quoteLayer).atop (preset .development)).validate = .ok ()
      ∧ config Disk.empty quoteVariables commaOptions
        = .error ⟨"invalid environment configuration", .config (.sameSeparatorAndQuote '"')⟩ := by
  have hbase : Base Disk.empty quoteVariables commaOptions.config (preset .development) :=
    .preset (eq_ok_of_toOption (by decide +kernel))
  have hwritten : quoteLayer.WrittenIn quoteVariables := ⟨rfl, rfl, rfl, rfl, rfl, .none, rfl⟩
  refine ⟨hbase, hwritten, eq_ok_of_toOption (by decide +kernel), ?_⟩
  rw [config_eq hbase hwritten]
  rfl

end Cli

end FlatQuery
