/-
The base URL that a run asks at.

The variable with the base URL is read twice: as a part of the configuration, without white space
around it and with a default if nothing is left, and once more for the option of that name, which
then counts.  The two readings give the same URL exactly if the variable is absent or is written
without white space around it and not with slashes only (`run_with_configuration_iff`).
-/
import Mathlib.Data.List.DropRight
import Atelier.Proofs.CommandLine.Steps
import Atelier.Proofs.Text.Bare

namespace Atelier

/-! ## Taking characters off the end -/

section

variable {p : Char → Bool} {before text : List Char}

lemma dropEnd_eq_nil_iff : dropEnd p text = [] ↔ ∀ c ∈ text, p c = true :=
  List.rdropWhile_eq_nil_iff

lemma length_dropEnd_le (p : Char → Bool) (text : List Char) :
    (dropEnd p text).length ≤ text.length :=
  (List.rdropWhile_prefix p text).length_le

/-- Nothing is taken off a text that ends with another character. -/
lemma dropEnd_append_of_not {after : List Char} (hne : after ≠ [])
    (hafter : ∀ c ∈ after, p c = false) : dropEnd p (text ++ after) = text ++ after := by
  refine List.rdropWhile_eq_self_iff.2 fun hl => ?_
  rw [List.getLast_append_of_ne_nil _ hne, hafter _ (List.getLast_mem hne)]
  exact Bool.false_ne_true

/-- What stands before a character that stays stays as well. -/
lemma dropEnd_append_of_ne_nil (h : dropEnd p text ≠ []) :
    dropEnd p (before ++ text) = before ++ dropEnd p text := by
  have hrest : ¬ (text.reverse.dropWhile p).isEmpty = true := by
    rw [List.isEmpty_iff]
    exact fun hnil => h (by rw [dropEnd, hnil, List.reverse_nil])
  rw [dropEnd, List.reverse_append, List.dropWhile_append, if_neg hrest, List.reverse_append,
    List.reverse_reverse, dropEnd]

/-- If other characters are taken off the end, white space around a text cannot be overlooked. -/
lemma trim_eq_self_of_dropEnd (hp : ∀ c, isBlank c = true → p c = false)
    (h : dropEnd p text = dropEnd p (trim text)) (hne : dropEnd p (trim text) ≠ []) :
    trim text = text := by
  obtain ⟨before, after, htext, hbefore, hafter⟩ := exists_around_trim text
  generalize trim text = middle at h hne htext ⊢
  have hend : after = [] := by
    -- White space at the end would stay there, and make the text too long.
    by_contra hsome
    have hkept : dropEnd p text = text := by
      rw [htext]
      exact dropEnd_append_of_not hsome fun c hc => hp c (hafter c hc)
    have hlength := length_dropEnd_le p middle
    rw [← h, hkept, htext, List.length_append, List.length_append] at hlength
    exact hsome (List.length_eq_zero_iff.1 (by omega))
  have hstart : before = [] := by
    rw [htext, hend, List.append_nil, dropEnd_append_of_ne_nil hne] at h
    exact List.append_left_eq_self.1 h
  rw [htext, hend, hstart, List.nil_append, List.append_nil]

end

namespace Config

/-- There is no white space around the text, and it is not only slashes. -/
structure IsPlain (url : String) : Prop where
  trimmed : trim url.toList = url.toList
  solid : ∃ c ∈ url.toList, c ≠ '/'

lemma isEmpty_dropSlashes_iff {text : List Char} :
    (dropSlashes text).isEmpty = true ↔ ∀ c ∈ text, c = '/' := by
  rw [dropSlashes, String.isEmpty_iff, String.ofList_eq_empty_iff, dropEnd_eq_nil_iff]
  simp only [decide_eq_true_eq]

/-- The slashes at the end are all that a plain URL loses. -/
lemma backendUrlOf_of_isPlain {url : String} (h : IsPlain url) :
    backendUrlOf (some url) = dropSlashes url.toList := by
  have hsolid : ¬ (dropSlashes url.toList).isEmpty = true := by
    rw [isEmpty_dropSlashes_iff]
    obtain ⟨c, hc, hne⟩ := h.solid
    exact fun hall => hne (hall c hc)
  rw [backendUrlOf, Option.map_some, h.trimmed]
  exact if_neg hsolid

/-- Nothing but white space and slashes stands for the default, which is something else. -/
lemma dropSlashes_ne_default {text : List Char} (h : ∀ c ∈ trim text, c = '/') :
    dropSlashes text ≠ ({} : Config).backendUrl := by
  intro heq
  have hlist : dropEnd (· = '/') text = ({} : Config).backendUrl.toList := by
    rw [← heq, dropSlashes, String.toList_ofList]
  have hmem : 'h' ∈ text := by
    have hsub : dropEnd (· = '/') text ⊆ text := (List.rdropWhile_prefix (· = '/') text).subset
    refine hsub ?_
    rw [hlist]
    decide
  obtain ⟨before, after, htext, hbefore, hafter⟩ := exists_around_trim text
  rw [htext, List.mem_append, List.mem_append] at hmem
  rcases hmem with (hmem | hmem) | hmem
  · cases hbefore _ hmem
  · exact absurd (h _ hmem) (by decide)
  · cases hafter _ hmem

/-- Both readings agree on plain URLs only. -/
lemma dropSlashes_eq_backendUrlOf_iff {url : String} :
    dropSlashes url.toList = backendUrlOf (some url) ↔ IsPlain url := by
  refine ⟨fun h => ?_, fun h => (backendUrlOf_of_isPlain h).symm⟩
  rw [backendUrlOf, Option.map_some] at h
  by_cases hempty : (dropSlashes (trim url.toList)).isEmpty = true
  · have hdefault := h.trans (if_pos hempty)
    exact absurd hdefault (dropSlashes_ne_default (isEmpty_dropSlashes_iff.1 hempty))
  · have hsame := String.ofList_injective (h.trans (if_neg hempty))
    have hne : dropEnd (· = '/') (trim url.toList) ≠ [] := fun hnil =>
      hempty (by rw [dropSlashes, hnil]; rfl)
    have hblank : ∀ c, isBlank c = true → decide (c = '/') = false := by
      intro c hc
      refine decide_eq_false ?_
      rintro rfl
      cases hc
    have htrimmed := trim_eq_self_of_dropEnd hblank hsame hne
    refine ⟨htrimmed, ?_⟩
    rw [htrimmed] at hempty
    by_contra hnone
    push Not at hnone
    exact hempty (isEmpty_dropSlashes_iff.2 hnone)

/-- The base URL of a configuration is what its variable says. -/
lemma backendUrl_of_read {lookup : Lookup} {config : Config} (h : read lookup = .ok config) :
    config.backendUrl = backendUrlOf (lookup backendUrlKey) := by
  obtain ⟨pageSize, -, h⟩ := exists_of_bind_eq_ok h
  obtain ⟨searchDebounce, -, h⟩ := exists_of_bind_eq_ok h
  obtain ⟨width, -, h⟩ := exists_of_bind_eq_ok h
  obtain ⟨height, -, h⟩ := exists_of_bind_eq_ok h
  dsimp only at h
  split at h
  · cases h
  · rw [← Except.ok.inj h]

end Config

namespace CommandLine

section

variable {args : List String} {command : Command} {s : Memory}

/-- Without a configuration nothing is done. -/
lemma runOn_of_config_error {e : ConfigError}
    (hargs : Arguments.parse? args = some ⟨none, command⟩)
    (h : Config.read (s.environment.lookup ·) = .error e) :
    runOn args s = (.error (.config e), s) := by
  have hset := run_liftM_of_run (Memory.run_settings s)
  rw [runOn, run, hargs]
  exact (run_bind_of_ok hset).trans (run_bind_of_error (run_orError_of_error .config h s))

/-- A command is done with the configuration, but for the base URL that the host has. -/
lemma runOn_of_config {config : Config}
    (hargs : Arguments.parse? args = some ⟨none, command⟩)
    (h : Config.read (s.environment.lookup ·) = .ok config) :
    runOn args s =
      executeOn (withBackend config none (s.settings.lookup Config.backendUrlKey)) command s := by
  have hset := run_liftM_of_run (Memory.run_settings s)
  have hconfig := run_orError_of_ok .config h s
  have hurl := run_liftM (Host.setting? (m := StateM Memory) Config.backendUrlKey) s
  rw [runOn, run, hargs]
  exact (run_bind_of_ok hset).trans ((run_bind_of_ok hconfig).trans (run_bind_of_ok hurl))

/-- The URL that a run uses is that of the configuration unless the host has another one. -/
lemma backendUrl_withBackend_iff {config : Config}
    (h : Config.read (s.environment.lookup ·) = .ok config) :
    (withBackend config none (s.settings.lookup Config.backendUrlKey)).backendUrl =
        config.backendUrl ↔
      ∀ url, s.settings.lookup Config.backendUrlKey = some url → Config.IsPlain url := by
  cases hurl : s.settings.lookup Config.backendUrlKey with
  | none => exact iff_of_true rfl fun url h => by cases h
  | some url =>
    have hkey : Config.backendUrlKey ∈ Config.keys := List.mem_cons_self
    rw [Config.backendUrl_of_read h, Memory.lookup_environment hkey hurl]
    refine Config.dropSlashes_eq_backendUrlOf_iff.trans ⟨?_, fun hplain => hplain url rfl⟩
    rintro hplain _ ⟨⟩
    exact hplain

end

/-- Without an option for the base URL, a run is the command with the configuration but for that
URL.  The URL that is used is that of the configuration as well exactly if the host does not have
the variable, or has it with a plain text. -/
theorem run_with_configuration_iff {args : List String} {command : Command}
    (hargs : Arguments.parse? args = some ⟨none, command⟩) (s : Memory) :
    (∀ e, Config.read (s.environment.lookup ·) = .error e →
      runOn args s = (.error (.config e), s)) ∧
    ∀ config, Config.read (s.environment.lookup ·) = .ok config →
      ∃ used : String, runOn args s = executeOn { config with backendUrl := used } command s ∧
        used = (s.settings.lookup Config.backendUrlKey).elim config.backendUrl
          (Config.dropSlashes ·.toList) ∧
        config.backendUrl = Config.backendUrlOf (s.environment.lookup Config.backendUrlKey) ∧
        (used = config.backendUrl ↔
          ∀ url, s.settings.lookup Config.backendUrlKey = some url → Config.IsPlain url) := by
  refine ⟨fun e h => runOn_of_config_error hargs h, fun config h => ?_⟩
  refine ⟨_, ?_, rfl, Config.backendUrl_of_read h, ?_⟩
  · rw [runOn_of_config hargs h]
    cases s.settings.lookup Config.backendUrlKey <;> rfl
  · rw [← backendUrl_withBackend_iff h]
    cases s.settings.lookup Config.backendUrlKey <;> rfl

/-- A host that has the base URL and nothing else. -/
def hostWith (url : String) : Memory :=
  { settings := [(Config.backendUrlKey, url)] }

/-- Slashes at the end are no matter. -/
theorem run_with_configuration_iff_slashes :
    runOn ["catalog"] (hostWith "http://[::1]//") =
      executeOn { backendUrl := "http://[::1]" } (.catalog none 1 none)
        (hostWith "http://[::1]//") := by
  have hargs : Arguments.parse? ["catalog"] = some ⟨none, .catalog none 1 none⟩ := by
    decide +kernel
  have hread : Config.read ((hostWith "http://[::1]//").environment.lookup ·) =
      .ok { backendUrl := "http://[::1]" } := by decide +kernel
  obtain ⟨used, hrun, -, -, hused⟩ :=
    (run_with_configuration_iff hargs (hostWith "http://[::1]//")).2 _ hread
  have hplain : Config.IsPlain "http://[::1]//" := ⟨by decide, 'h', by decide, by decide⟩
  have hsetting : (hostWith "http://[::1]//").settings.lookup Config.backendUrlKey =
      some "http://[::1]//" := rfl
  rw [hrun, hused.2 fun url hurl => Option.some.inj (hsetting.symm.trans hurl) ▸ hplain]

/-- A blank variable is as good as absent for the configuration, but not for the URL that a run
uses. -/
theorem not_always_used_as_configured :
    ¬ ∀ (s : Memory) (config : Config), Config.read (s.environment.lookup ·) = .ok config →
      (withBackend config none (s.settings.lookup Config.backendUrlKey)).backendUrl =
        config.backendUrl := by
  intro hall
  have hread : Config.read ((hostWith "  ").environment.lookup ·) = .ok {} := by decide +kernel
  exact absurd (hall (hostWith "  ") {} hread) (by decide)

end CommandLine

end Atelier
