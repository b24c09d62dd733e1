import CertIssuer.Proofs.Conditions
import Mathlib.Data.List.DropRight

/-!
The ledger of conditions: what a sequence of settings makes of a list of conditions in which no type
occurs twice. Types keep their places and new ones line up behind them, each type says what was set
last, and its time is the time since when it has said so.

The settings of one type do not reach any other, so a type has a history of its own: the fold of its
settings over the condition that was there at first. The time is read off that history.
-/

namespace CertIssuer

/-- A setting of a condition: what is said about a type, why, and when. -/
structure Setting where
  type : String
  status : Truth
  reason : String
  message : String
  now : Instant
  deriving DecidableEq

/-- The condition that a setting puts where there is none of its type. -/
def Setting.condition (s : Setting) : Condition :=
  ⟨s.type, s.status, some s.now.format, some s.reason, some s.message⟩

namespace Conditions

/-- The conditions after a setting. -/
def afterSetting (conditions : List Condition) (s : Setting) : List Condition :=
  set conditions s.type s.status s.reason s.message s.now

/-- The conditions after settings. -/
def ledger (conditions : List Condition) (settings : List Setting) : List Condition :=
  settings.foldl afterSetting conditions

/-- What settings answer, one after the other: whether they changed what the conditions say. -/
def answers : List Condition → List Setting → List Bool
  | _, [] => []
  | conditions, s :: settings =>
    changes conditions s.type s.status :: answers (afterSetting conditions s) settings

/-- The condition of a type. -/
def get? (conditions : List Condition) (type : String) : Option Condition :=
  conditions.find? fun c => c.type = type

/-- The settings of one type. -/
def settingsOf (settings : List Setting) (type : String) : List Setting :=
  settings.filter fun s => s.type = type

/-- The types that settings bring in, in the order in which they are first set. -/
def newTypes (conditions : List Condition) (settings : List Setting) : List String :=
  ((settings.map Setting.type).filter fun type => type ∉ conditions.map Condition.type).eraseDups

/-- The settings at the end, as many as agree on this status. -/
def finalRun (own : List Setting) (status : Truth) : List Setting :=
  own.rtakeWhile fun s => s.status = status

/-- The time of a condition that was `old` before its settings `own` and has this status after them:
that of the first setting of the final run, unless the condition had the status all along. -/
def since (old : Option Condition) (own : List Setting) (status : Truth) : Option String :=
  let start := (finalRun own status).head?.map fun s => s.now.format
  match old with
  | some c => if finalRun own status = own ∧ c.status = status then c.lastTransitionTime else start
  | none => start

/-- What the conditions are after settings of the initial ones. -/
structure Reports (initial : List Condition) (settings : List Setting) (after : List Condition) :
    Prop where
  distinct : (after.map Condition.type).Nodup
  /-- Types that were there stay in their places, and new ones follow. -/
  order : after.map Condition.type = initial.map Condition.type ++ newTypes initial settings
  /-- What was never set is as it was. -/
  kept : ∀ c ∈ initial, (∀ s ∈ settings, s.type ≠ c.type) → c ∈ after
  /-- What was set says what was set last, since the status was set that it has. -/
  last : ∀ type s, (settingsOf settings type).getLast? = some s →
    ∃ c ∈ after, c.type = type ∧ c.status = s.status ∧ c.reason = some s.reason
      ∧ c.message = some s.message
      ∧ c.lastTransitionTime = since (get? initial type) (settingsOf settings type) s.status

variable {conditions initial : List Condition} {settings own : List Setting} {s : Setting}
  {type : String}

/-! ### Types -/

theorem types_put (new : Condition) (conditions : List Condition) :
    (put new conditions).map Condition.type
      = if new.type ∈ conditions.map Condition.type then conditions.map Condition.type
        else conditions.map Condition.type ++ [new.type] := by
  induction conditions with
  | nil => rfl
  | cons c rest ih =>
    unfold put
    by_cases h : c.type = new.type
    · have htype : (replacing c new).type = new.type := (agree_replacing c new).type
      rw [if_pos h, if_pos (by simp [h]), List.map_cons, htype, List.map_cons, h]
    · have hne : ¬ new.type = c.type := fun e => h e.symm
      rw [if_neg h, List.map_cons, ih, List.map_cons, List.cons_append]
      by_cases mem : new.type ∈ rest.map Condition.type
      · rw [if_pos mem, if_pos (List.mem_cons_of_mem _ mem)]
      · rw [if_neg mem, if_neg (by simpa [hne] using mem)]

theorem types_afterSetting (conditions : List Condition) (s : Setting) :
    (afterSetting conditions s).map Condition.type
      = if s.type ∈ conditions.map Condition.type then conditions.map Condition.type
        else conditions.map Condition.type ++ [s.type] := types_put s.condition conditions

/-- A setting brings in no type twice. -/
theorem nodup_afterSetting (distinct : (conditions.map Condition.type).Nodup) :
    ((afterSetting conditions s).map Condition.type).Nodup := by
  rw [types_afterSetting]
  split
  · exact distinct
  · next absent =>
    refine List.nodup_append.mpr ⟨distinct, by simp, fun t ht u hu => ?_⟩
    rw [List.mem_singleton.mp hu]
    rintro rfl
    exact absent ht

theorem ledger_concat :
    ledger initial (settings ++ [s]) = afterSetting (ledger initial settings) s := List.foldl_append

/-- Without repetitions, one more text counts unless it was there. -/
theorem eraseDups_concat (texts : List String) (text : String) : (texts ++ [text]).eraseDups
    = if text ∈ texts then texts.eraseDups else texts.eraseDups ++ [text] := by
  rw [List.eraseDups_append, List.removeAll]
  by_cases h : text ∈ texts
  · rw [if_pos h, List.filter_cons_of_neg (by simpa using h)]
    exact List.append_nil _
  · rw [if_neg h, List.filter_cons_of_pos (by simpa using h)]
    rfl

/-- One more setting brings in its type, unless the type was there or has been brought in. -/
theorem newTypes_concat : newTypes initial (settings ++ [s])
    = if s.type ∈ initial.map Condition.type ++ newTypes initial settings
      then newTypes initial settings else newTypes initial settings ++ [s.type] := by
  unfold newTypes
  rw [List.map_append, List.filter_append, List.map_singleton]
  by_cases known : s.type ∈ initial.map Condition.type
  · rw [List.filter_cons_of_neg (by simpa using known), List.filter_nil, List.append_nil,
      if_pos (List.mem_append_left _ known)]
  · rw [List.filter_cons_of_pos (by simpa using known), List.filter_nil, eraseDups_concat]
    simp only [List.mem_append, known, List.mem_eraseDups, false_or]

theorem types_ledger (initial : List Condition) (settings : List Setting) :
    (ledger initial settings).map Condition.type
      = initial.map Condition.type ++ newTypes initial settings := by
  induction settings using List.reverseRecOn with
  | nil => exact (List.append_nil _).symm
  | append_singleton settings s ih =>
    rw [ledger_concat, types_afterSetting, newTypes_concat, ih]
    split
    · rfl
    · exact List.append_assoc ..

theorem nodup_ledger (distinct : (initial.map Condition.type).Nodup) (settings : List Setting) :
    ((ledger initial settings).map Condition.type).Nodup := by
  induction settings using List.reverseRecOn with
  | nil => exact distinct
  | append_singleton settings s ih =>
    rw [ledger_concat]
    exact nodup_afterSetting ih

/-! ### The history of one type -/

/-- The condition that a setting makes of the one that is there, if there is one. -/
def renewed : Option Condition → Setting → Condition
  | some old, s => replacing old s.condition
  | none, s => s.condition

/-- The condition of a type after its settings. -/
def history (old : Option Condition) (own : List Setting) : Option Condition :=
  own.foldl (fun c s => some (renewed c s)) old

theorem get?_put (new : Condition) (conditions : List Condition) (type : String) :
    get? (put new conditions) type
      = if type = new.type then
          some (match get? conditions type with
            | some old => replacing old new
            | none => new)
        else get? conditions type := by
  unfold get?
  induction conditions with
  | nil => by_cases h : new.type = type <;> simp [put, h, eq_comm]
  | cons c rest ih =>
    unfold put
    by_cases hc : c.type = new.type
    · rw [if_pos hc]
      by_cases h : type = new.type
      · simp [h, hc, (agree_replacing c new).type]
      · have hne : ¬ new.type = type := fun e => h e.symm
        simp [h, hne, hc, (agree_replacing c new).type]
    · rw [if_neg hc]
      by_cases h : c.type = type
      · have hne : ¬ type = new.type := fun e => hc (h.trans e)
        simp [h, hne]
      · simpa [h] using ih

/-- A setting goes into the history of its own type only. -/
theorem get?_afterSetting (conditions : List Condition) (s : Setting) (type : String) :
    get? (afterSetting conditions s) type
      = if type = s.type then some (renewed (get? conditions type) s)
        else get? conditions type := by
  refine (get?_put s.condition conditions type).trans ?_
  cases get? conditions type <;> rfl

theorem get?_ledger (initial : List Condition) (settings : List Setting) (type : String) :
    get? (ledger initial settings) type
      = history (get? initial type) (settingsOf settings type) := by
  induction settings generalizing initial with
  | nil => rfl
  | cons s settings ih =>
    refine (ih (afterSetting initial s)).trans ?_
    rw [get?_afterSetting, settingsOf, settingsOf]
    by_cases h : s.type = type
    · rw [if_pos h.symm, List.filter_cons_of_pos (by simpa using h)]
      rfl
    · rw [if_neg fun e => h e.symm, List.filter_cons_of_neg (by simpa using h)]

theorem agree_renewed (old : Option Condition) (s : Setting) :
    Agree (renewed old s) s.condition := by
  cases old with
  | some c => exact agree_replacing c s.condition
  | none => exact ⟨rfl, rfl, rfl, rfl⟩

/-- The time of a condition is kept as long as its status is. -/
theorem time_replacing (old new : Condition) : (replacing old new).lastTransitionTime
    = if old.status = new.status then old.lastTransitionTime else new.lastTransitionTime := by
  unfold replacing
  split <;> rfl

theorem time_renewed (c : Condition) (s : Setting) : (renewed (some c) s).lastTransitionTime
    = if c.status = s.status then c.lastTransitionTime else some s.now.format :=
  time_replacing c s.condition

/-- The first setting decides whether the status from before goes on. -/
theorem since_singleton (old : Option Condition) (s : Setting) :
    (renewed old s).lastTransitionTime = since old [s] s.status := by
  have hrun : finalRun [s] s.status = [s] :=
    List.rtakeWhile_eq_self_iff.mpr (by simp)
  cases old with
  | none =>
    rw [since, hrun]
    rfl
  | some c =>
    rw [time_renewed, since, hrun]
    simp only [true_and]
    rfl

/-- A setting of the same status goes on with the final run. -/
theorem since_concat_of_eq {last : Setting} (old : Option Condition)
    (hlast : own.getLast? = some last) (h : last.status = s.status) :
    since old (own ++ [s]) s.status = since old own s.status := by
  have hrun : finalRun (own ++ [s]) s.status = finalRun own s.status ++ [s] :=
    List.rtakeWhile_concat_pos _ own s (by simp)
  have hne : finalRun own s.status ≠ [] := by
    intro hnil
    obtain ⟨own, rfl⟩ := List.getLast?_eq_some_iff.mp hlast
    have hpos := List.rtakeWhile_concat_pos (fun x : Setting => x.status = s.status) own last
      (by simpa using h)
    rw [finalRun, hpos] at hnil
    cases (List.append_eq_nil_iff.mp hnil).2
  have hhead : (finalRun own s.status ++ [s]).head? = (finalRun own s.status).head? :=
    List.head?_append_of_ne_nil _ hne
  unfold since
  rw [hrun, hhead]
  simp only [List.append_cancel_right_eq]

/-- A setting of another status starts the final run over. -/
theorem since_concat_of_ne {last : Setting} (old : Option Condition)
    (hlast : own.getLast? = some last) (h : last.status ≠ s.status) :
    since old (own ++ [s]) s.status = some s.now.format := by
  obtain ⟨own, rfl⟩ := List.getLast?_eq_some_iff.mp hlast
  have hnil : finalRun (own ++ [last]) s.status = [] :=
    List.rtakeWhile_concat_neg _ own last (by simpa using h)
  have hrun : finalRun (own ++ [last] ++ [s]) s.status = [s] := by
    rw [finalRun, List.rtakeWhile_concat_pos _ _ s (by simp)]
    exact congrArg (· ++ [s]) hnil
  have hshort : [s] ≠ own ++ [last] ++ [s] := by
    intro he
    simpa using congrArg List.length he
  cases old with
  | none =>
    rw [since, hrun]
    rfl
  | some c =>
    rw [since, hrun]
    exact if_neg fun all => hshort all.1

/-- A type that was set says what was set last, since its status was set. -/
theorem history_of_last (old : Option Condition) (hlast : own.getLast? = some s) :
    ∃ c, history old own = some c ∧ Agree c s.condition
      ∧ c.lastTransitionTime = since old own s.status := by
  induction own using List.reverseRecOn generalizing s with
  | nil => cases hlast
  | append_singleton own x ih =>
    obtain rfl : x = s := by simpa using hlast
    have hstep : history old (own ++ [x]) = some (renewed (history old own) x) := List.foldl_append
    refine ⟨_, hstep, agree_renewed _ x, ?_⟩
    cases hprevious : own.getLast? with
    | none =>
      obtain rfl := List.getLast?_eq_none_iff.mp hprevious
      exact since_singleton old x
    | some last =>
      obtain ⟨c, hc, agree, htime⟩ := ih hprevious
      have hstatus : c.status = last.status := agree.status
      rw [hc, time_renewed, hstatus]
      by_cases h : last.status = x.status
      · rw [if_pos h, since_concat_of_eq old hprevious h, htime, h]
      · rw [if_neg h, since_concat_of_ne old hprevious h]

/-! ### The ledger -/

theorem mem_of_get? {c : Condition} (h : get? conditions type = some c) :
    c ∈ conditions ∧ c.type = type := by
  refine ⟨List.mem_of_find?_eq_some h, ?_⟩
  simpa using List.find?_some h

/-- Where no type occurs twice, every condition is the one of its type. -/
theorem get?_of_mem {c : Condition} (distinct : (conditions.map Condition.type).Nodup)
    (mem : c ∈ conditions) : get? conditions c.type = some c := by
  induction conditions with
  | nil => cases mem
  | cons d rest ih =>
    obtain ⟨fresh, distinct⟩ := List.nodup_cons.mp distinct
    unfold get?
    rcases List.mem_cons.mp mem with rfl | mem
    · exact List.find?_cons_of_pos (by simp)
    · have hne : d.type ≠ c.type := by
        rintro he
        exact fresh (he ▸ List.mem_map_of_mem mem)
      rw [List.find?_cons_of_neg (by simpa using hne)]
      exact ih distinct mem

/-- A setting changes what the conditions say if its type is absent or has another status. -/
theorem changes_iff (distinct : (conditions.map Condition.type).Nodup) (type : String)
    (status : Truth) : changes conditions type status = true
      ↔ (∀ c ∈ conditions, c.type ≠ type)
        ∨ ∃ c ∈ conditions, c.type = type ∧ c.status ≠ status := by
  have hchanges : changes conditions type status = true
      ↔ (get? conditions type).map Condition.status ≠ some status := by
    simp [changes, status?, get?]
  rw [hchanges]
  cases hget : get? conditions type with
  | none =>
    have absent : ∀ c ∈ conditions, c.type ≠ type := by simpa [get?] using hget
    simp only [Option.map_none, ne_eq, reduceCtorEq, not_false_eq_true, true_iff]
    exact .inl absent
  | some c =>
    obtain ⟨mem, htype⟩ := mem_of_get? hget
    simp only [Option.map_some, ne_eq, Option.some.injEq]
    constructor
    · exact fun hne => .inr ⟨c, mem, htype, hne⟩
    · rintro (absent | ⟨d, hd, hdtype, hne⟩)
      · exact absurd htype (absent c mem)
      · have hd' := get?_of_mem distinct hd
        rw [hdtype, hget] at hd'
        cases hd'
        exact hne

/-- A setting answers from the conditions that it meets. -/
theorem answers_getElem? (initial : List Condition) (earlier : List Setting) (s : Setting)
    (later : List Setting) : (answers initial (earlier ++ s :: later))[earlier.length]?
      = some (changes (ledger initial earlier) s.type s.status) := by
  induction earlier generalizing initial with
  | nil => rfl
  | cons x earlier ih => exact ih (afterSetting initial x)

/-- Whatever is set on conditions in which no type occurs twice, they report the settings, and a
setting answers that it changed something if its type was absent or had another status. -/
theorem ledger_after_settings (initial : List Condition) (settings : List Setting)
    (distinct : (initial.map Condition.type).Nodup) :
    Reports initial settings (ledger initial settings)
      ∧ ∀ earlier s later, settings = earlier ++ s :: later →
        ∃ answer, (answers initial settings)[earlier.length]? = some answer
          ∧ (answer = true ↔ (∀ c ∈ ledger initial earlier, c.type ≠ s.type)
            ∨ ∃ c ∈ ledger initial earlier, c.type = s.type ∧ c.status ≠ s.status) := by
  refine ⟨⟨nodup_ledger distinct settings, types_ledger initial settings, ?_, ?_⟩, ?_⟩
  · intro c mem unset
    have hown : settingsOf settings c.type = [] := by simpa [settingsOf] using unset
    have hget := get?_ledger initial settings c.type
    rw [hown, get?_of_mem distinct mem] at hget
    exact (mem_of_get? hget).1
  · intro type s hlast
    obtain ⟨c, hc, agree, htime⟩ := history_of_last (get? initial type) hlast
    obtain ⟨mem, htype⟩ := mem_of_get? ((get?_ledger initial settings type).trans hc)
    exact ⟨c, mem, htype, agree.status, agree.reason, agree.message, htime⟩
  · rintro earlier s later rfl
    exact ⟨_, answers_getElem? initial earlier s later,
      changes_iff (nodup_ledger distinct earlier) s.type s.status⟩

/-- An approval without a time, and a request that has not been ready since the first second. -/
def waiting : List Condition :=
  [⟨Condition.approved, .yes, none, none, none⟩,
    ⟨Condition.ready, .no, some "1970-01-01T00:00:01Z", some Reason.pending, none⟩]

/-- The approval is repeated, and the request becomes ready in the third second. -/
def becomingReady : List Setting :=
  [⟨Condition.approved, .yes, "again", "", 2000⟩,
    ⟨Condition.ready, .yes, Reason.issued, "", 3000⟩, ⟨"Archived", .unknown, "", "", 4000⟩,
    ⟨Condition.ready, .yes, Reason.issued, "still", 5000⟩]

/-- The approval stays without a time, and the request has been ready since the third second. -/
theorem ledger_after_settings_becomingReady :
    (ledger waiting becomingReady).map Condition.type
        = [Condition.approved, Condition.ready, "Archived"]
      ∧ (∃ c ∈ ledger waiting becomingReady, c.type = Condition.approved
        ∧ c.reason = some "again" ∧ c.lastTransitionTime = none)
      ∧ (∃ c ∈ ledger waiting becomingReady, c.type = Condition.ready
        ∧ c.message = some "still" ∧ c.lastTransitionTime = some "1970-01-01T00:00:03Z")
      ∧ (answers waiting becomingReady)[0]? = some false := by
  have distinct : (waiting.map Condition.type).Nodup := by decide
  obtain ⟨reports, answered⟩ := ledger_after_settings waiting becomingReady distinct
  obtain ⟨approved, happroved, htype, _, hreason, _, htime⟩ :=
    reports.last Condition.approved ⟨Condition.approved, .yes, "again", "", 2000⟩ rfl
  obtain ⟨ready, hready, htype', _, _, hmessage', htime'⟩ :=
    reports.last Condition.ready ⟨Condition.ready, .yes, Reason.issued, "still", 5000⟩ rfl
  obtain ⟨answer, hanswer, hiff⟩ := answered [] ⟨Condition.approved, .yes, "again", "", 2000⟩ _ rfl
  have hfalse : answer = false := by
    rw [← Bool.not_eq_true, hiff]
    decide
  refine ⟨reports.order.trans (by decide), ⟨approved, happroved, htype, hreason, htime.trans ?_⟩,
    ⟨ready, hready, htype', hmessage', htime'.trans ?_⟩, hfalse ▸ hanswer⟩
  · decide
  · decide +kernel

end Conditions
end CertIssuer
