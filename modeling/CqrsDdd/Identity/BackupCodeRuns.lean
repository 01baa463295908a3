import CqrsDdd.Identity.BackupCodes

/-! Runs of the backup code service. In each run a code is accepted once and only for its user,
as long as nobody types one without its dashes that is not of four letters at most or of eight. -/
namespace CqrsDdd.Identity

variable {service : BackupCodesService} {unicode : Char → Text} {codeLength : Nat}

/-- The text is the code as it was shown, or the code without dashes, with blanks around it and in any letter case. -/
def Reads (unicode : Char → Text) (text code : Text) : Prop :=
  upper unicode (strip text) = formatCode code ∨ upper unicode (strip text) = code

/-- The lengths of codes that are known by their letters alone. -/
def Known (codeLength : Nat) : Prop := codeLength ≤ 4 ∨ codeLength = 8

theorem alphabet_plain : '-' ∉ alphabet := by decide

namespace RawCode

variable (code other : RawCode codeLength)

@[ext] theorem ext {code other : RawCode codeLength} (same : code.letters = other.letters) : code = other := by
  obtain ⟨letters,_,_⟩ := code
  obtain ⟨others,_,_⟩ := other
  cases same
  rfl

theorem plain : '-' ∉ code.letters := fun member => alphabet_plain (code.chosen _ member)

variable {code other}

theorem formatCode_inj (same : formatCode code.letters = formatCode other.letters) : code = other :=
  RawCode.ext (Identity.formatCode_inj code.plain other.plain same)

theorem letters_of_reads {text : Text} (reads : Reads unicode text code.letters) :
    (upper unicode (strip text)).filter (· ≠ '-') = code.letters := by
  rcases reads with same | same
  · rw [same,filter_formatCode code.plain]
  · rw [same,List.filter_eq_self]
    intro letter member
    have differs : letter ≠ '-' := fun here => code.plain (here ▸ member)
    simpa using differs

theorem eq_of_reads {text : Text} (reads : Reads unicode text code.letters) (others : Reads unicode text other.letters) :
    code = other :=
  RawCode.ext ((letters_of_reads reads).symm.trans (letters_of_reads others))

end RawCode

namespace InMemoryBackupCodesService

variable {text : Text} {code other : RawCode codeLength}

theorem reads_of_normalized (normalized : normalizeCode unicode text = formatCode code.letters) :
    Reads unicode text code.letters := by
  unfold normalizeCode at normalized
  dsimp only at normalized
  split at normalized
  next eight =>
    rw [← formatCode_eight eight.1] at normalized
    exact .inr (formatCode_inj eight.2 code.plain normalized)
  next => exact .inl normalized

theorem normalizeCode_shown (shown : upper unicode (strip text) = formatCode code.letters) :
    normalizeCode unicode text = formatCode code.letters := by
  unfold normalizeCode
  dsimp only
  rw [shown,if_neg]
  intro ⟨eight,undashed⟩
  have short : code.letters.length ≤ 4 := Nat.le_of_not_lt fun long => undashed (formatCode_dashed long)
  rw [formatCode_short short] at eight
  omega

theorem normalizeCode_undashed (typed : upper unicode (strip text) = code.letters) :
    normalizeCode unicode text = if codeLength = 8 then formatCode code.letters else code.letters := by
  unfold normalizeCode
  dsimp only
  rw [typed]
  by_cases eight : codeLength = 8
  · rw [if_pos ⟨code.sized.trans eight,code.plain⟩,if_pos eight,formatCode_eight (code.sized.trans eight)]
  · rw [if_neg fun both => eight (code.sized.symm.trans both.1),if_neg eight]

theorem normalizeCode_iff (known : upper unicode (strip text) = code.letters → Known codeLength) :
    normalizeCode unicode text = formatCode code.letters ↔ Reads unicode text code.letters := by
  refine ⟨reads_of_normalized,fun reads => ?_⟩
  rcases reads with shown | typed
  · exact normalizeCode_shown shown
  · rw [normalizeCode_undashed typed]
    split
    next => exact rfl
    next other =>
      have short : codeLength ≤ 4 := (known typed).resolve_right other
      exact (formatCode_short (code.sized.trans_le short)).symm

theorem normalizeCode_unknown (typed : upper unicode (strip text) = code.letters) (unknown : ¬Known codeLength)
    (other : RawCode codeLength) : normalizeCode unicode text ≠ formatCode other.letters := by
  have lengths := not_or.mp unknown
  rw [normalizeCode_undashed typed,if_neg lengths.2]
  intro same
  have long : 4 < other.letters.length := other.sized.symm ▸ Nat.lt_of_not_le lengths.1
  exact code.plain (same ▸ formatCode_dashed long)

namespace Call

def codes (service : BackupCodesService) : Call service.codeLength → List (RawCode service.codeLength)
  | .generate _ count choice => service.drawn count choice
  | .consume _ _ | .revoke _ => []

/-- The codes that the call returns to the user. -/
def codesFor (service : BackupCodesService) (userId : String) :
    Call service.codeLength → List (RawCode service.codeLength)
  | .generate user count choice => if user = userId then service.drawn count choice else []
  | .consume _ _ | .revoke _ => []

/-- The call types the code for the user or revokes the codes of the user. -/
def Spends (unicode : Char → Text) (userId : String) (code : RawCode codeLength) : Call codeLength → Prop
  | .generate _ _ _ => False
  | .consume user text => user = userId ∧ Reads unicode text code.letters
  | .revoke user => user = userId

end Call

/-- A call returned the code to the user, and none of the later ones typed it for the user or revoked it. -/
def Live (unicode : Char → Text) (calls : List (Call service.codeLength)) (userId : String)
    (code : RawCode service.codeLength) : Prop :=
  ∃ before call after, calls = before ++ call::after ∧ code ∈ call.codesFor service userId ∧
    ∀ later ∈ after, ¬later.Spends unicode userId code

theorem live_nil {userId : String} {code : RawCode service.codeLength} : ¬Live unicode [] userId code := by
  intro ⟨before,call,after,same,_,_⟩
  cases before <;> cases same

theorem live_snoc {calls : List (Call service.codeLength)} {call : Call service.codeLength} {userId : String}
    {code : RawCode service.codeLength} : Live unicode (calls ++ [call]) userId code ↔
      code ∈ call.codesFor service userId ∨ Live unicode calls userId code ∧ ¬call.Spends unicode userId code := by
  constructor
  · intro ⟨before,returning,after,same,returned,unspent⟩
    rcases List.eq_nil_or_concat after with rfl | ⟨earlier,last,rfl⟩
    · obtain ⟨_,here⟩ := List.append_inj' same rfl
      cases here
      exact .inl returned
    · rw [List.concat_eq_append] at same unspent
      rw [← List.cons_append,← List.append_assoc] at same
      obtain ⟨rest,here⟩ := List.append_inj' same rfl
      cases here
      refine .inr ⟨⟨before,returning,earlier,rest,returned,fun later member => ?_⟩,?_⟩
      · exact unspent later (List.mem_append_left _ member)
      · exact unspent call (List.mem_append_right _ List.mem_cons_self)
  · rintro (returned | ⟨⟨before,returning,after,rfl,returned,unspent⟩,kept⟩)
    · exact ⟨calls,call,[],rfl,returned,fun _ member => absurd member List.not_mem_nil⟩
    · refine ⟨before,returning,after ++ [call],by rw [List.append_assoc,List.cons_append],returned,fun later member => ?_⟩
      rcases List.mem_append.mp member with earlier | last
      · exact unspent later earlier
      · exact List.mem_singleton.mp last ▸ kept

/-- What is kept for a user are the live codes of the user. -/
def Accurate (unicode : Char → Text) (calls : List (Call service.codeLength)) (codes : Codes) : Prop :=
  ∀ userId text, text ∈ held codes userId ↔
    ∃ code : RawCode service.codeLength, text = formatCode code.letters ∧ Live unicode calls userId code

/-- A code that is kept for the user is not typed without dashes unless it is known by its letters alone. -/
def Typable (service : BackupCodesService) (unicode : Char → Text) (codes : Codes) : Call service.codeLength → Prop
  | .consume userId text => ∀ code : RawCode service.codeLength, formatCode code.letters ∈ held codes userId →
      upper unicode (strip text) = code.letters → Known service.codeLength
  | .generate _ _ _ | .revoke _ => True

theorem accurate_empty : Accurate unicode ([] : List (Call service.codeLength)) .empty := by
  intro userId text
  refine iff_of_false (fun member => ?_) fun ⟨_,_,live⟩ => live_nil live
  exact absurd member (Finset.notMem_empty text)

theorem mem_generated {count : Int} {choice : Nat → RawCode service.codeLength} {text : Text} :
    text ∈ (service.generate count choice).toFinset ↔
      ∃ code, text = formatCode code.letters ∧ code ∈ service.drawn count choice := by
  rw [List.mem_toFinset,BackupCodesService.generate,List.mem_map]
  exact ⟨fun ⟨code,member,same⟩ => ⟨code,same.symm,member⟩,fun ⟨code,same,member⟩ => ⟨code,member,same.symm⟩⟩

theorem accurate_step {calls : List (Call service.codeLength)} {codes : Codes} {call : Call service.codeLength}
    (accurate : Accurate unicode calls codes) (typable : Typable service unicode codes call) :
    Accurate unicode (calls ++ [call]) (step service unicode codes call) := by
  intro userId text
  simp only [live_snoc]
  cases call with
  | generate user count choice =>
    rw [step,held_generate]
    by_cases same : userId = user
    · subst same
      rw [if_pos rfl,Finset.mem_union,accurate,mem_generated]
      simp only [Call.codesFor,if_pos,Call.Spends,not_false_eq_true,and_true]
      constructor
      · rintro (⟨code,shown,live⟩ | ⟨code,shown,returned⟩)
        · exact ⟨code,shown,.inr live⟩
        · exact ⟨code,shown,.inl returned⟩
      · rintro ⟨code,shown,returned | live⟩
        · exact .inr ⟨code,shown,returned⟩
        · exact .inl ⟨code,shown,live⟩
    · rw [if_neg same,accurate]
      simp [Call.codesFor,if_neg (Ne.symm same),Call.Spends]
  | consume user typed =>
    rw [step,held_consume]
    by_cases same : userId = user
    · subst same
      rw [if_pos rfl,Finset.mem_erase,accurate]
      constructor
      · rintro ⟨differs,code,rfl,live⟩
        refine ⟨code,rfl,.inr ⟨live,fun spent => differs ?_⟩⟩
        have kept : formatCode code.letters ∈ held codes userId := (accurate _ _).mpr ⟨code,rfl,live⟩
        exact ((normalizeCode_iff (typable code kept)).mpr spent.2).symm
      · rintro ⟨code,rfl,returned | ⟨live,unspent⟩⟩
        · exact absurd returned List.not_mem_nil
        · exact ⟨fun normalized => unspent ⟨rfl,reads_of_normalized normalized.symm⟩,code,rfl,live⟩
    · rw [if_neg same,accurate]
      simp [Call.codesFor,Call.Spends,Ne.symm same]
  | revoke user =>
    rw [step,held_revoke]
    by_cases same : userId = user
    · subst same
      simp [Call.codesFor,Call.Spends]
    · rw [if_neg same,accurate]
      simp [Call.codesFor,Call.Spends,Ne.symm same]

theorem run_accurate {calls : List (Call service.codeLength)}
    (meets : Transition.Meets (step service unicode) (Typable service unicode) .empty calls) :
    Accurate unicode calls (Transition.run (step service unicode) .empty calls) :=
  Transition.run_history (Accurate unicode) (fun _ _ _ accurate typable => accurate_step accurate typable) [] _ calls
    accurate_empty meets

/-- A text is accepted when it reads a live code of the user. -/
def SingleUse (service : BackupCodesService) (unicode : Char → Text) (calls : List (Call service.codeLength)) : Prop :=
  ∀ earlier userId text, earlier ++ [.consume userId text] <+: calls →
    ((consume unicode userId text (Transition.run (step service unicode) .empty earlier)).1 = true ↔
      ∃ code : RawCode service.codeLength, Reads unicode text code.letters ∧ Live unicode earlier userId code)

theorem single_use_of_meets {calls : List (Call service.codeLength)}
    (meets : Transition.Meets (step service unicode) (Typable service unicode) .empty calls) :
    SingleUse service unicode calls := by
  intro earlier userId text before
  obtain ⟨met,typable,_⟩ := (Transition.meets_append _ _ _ _ _).mp (meets.earlier before)
  have accurate := run_accurate met
  rw [consume_answer,accurate]
  refine exists_congr fun code => and_congr_left fun live => normalizeCode_iff fun typed => ?_
  exact typable code ((accurate _ _).mpr ⟨code,rfl,live⟩) typed

theorem meets_of_single_use {calls : List (Call service.codeLength)} (single : SingleUse service unicode calls) :
    Transition.Meets (step service unicode) (Typable service unicode) .empty calls := by
  induction calls using List.reverseRecOn with
  | nil => trivial
  | append_singleton calls call ih =>
    have met := ih fun earlier userId text before => single earlier userId text (before.trans (List.prefix_append _ _))
    refine (Transition.meets_append _ _ _ _ _).mpr ⟨met,?_,trivial⟩
    cases call with
    | generate user count choice => trivial
    | revoke user => trivial
    | consume userId text =>
      intro code kept typed
      by_contra unknown
      -- the kept code is live, and its letters alone are not accepted
      have accurate := run_accurate met
      obtain ⟨other,shown,live⟩ := (accurate _ _).mp kept
      obtain rfl := RawCode.formatCode_inj shown
      have accepted := (single calls userId text (List.prefix_refl _)).mpr ⟨code,.inr typed,live⟩
      obtain ⟨other,shown,_⟩ := (accurate _ _).mp (consume_answer userId text |>.mp accepted)
      exact normalizeCode_unknown typed unknown other shown

theorem held_step {codes : Codes} {call : Call service.codeLength} {userId : String} {text : Text}
    (member : text ∈ held (step service unicode codes call) userId) :
    text ∈ held codes userId ∨ ∃ code ∈ call.codesFor service userId, text = formatCode code.letters := by
  cases call with
  | generate user count choice =>
    rw [step,held_generate] at member
    split at member
    next same =>
      subst same
      refine (Finset.mem_union.mp member).imp id fun new => ?_
      obtain ⟨code,shown,drawn⟩ := mem_generated.mp new
      exact ⟨code,by rwa [Call.codesFor,if_pos rfl],shown⟩
    next => exact .inl member
  | consume user typed =>
    rw [step,held_consume] at member
    split at member
    next same =>
      subst same
      exact .inl (Finset.mem_of_mem_erase member)
    next => exact .inl member
  | revoke user =>
    rw [step,held_revoke] at member
    split at member
    next => exact absurd member (Finset.notMem_empty text)
    next => exact .inl member

theorem held_returned {calls : List (Call service.codeLength)} {userId : String} {text : Text}
    (member : text ∈ held (Transition.run (step service unicode) .empty calls) userId) :
    ∃ call ∈ calls, ∃ code ∈ call.codesFor service userId, text = formatCode code.letters := by
  induction calls using List.reverseRecOn with
  | nil => exact absurd member (Finset.notMem_empty text)
  | append_singleton calls last ih =>
    rw [Transition.run_append,Transition.run_cons,Transition.run_nil] at member
    rcases held_step member with kept | returned
    · obtain ⟨call,among,returned⟩ := ih kept
      exact ⟨call,List.mem_append_left _ among,returned⟩
    · exact ⟨last,List.mem_append_right _ List.mem_cons_self,returned⟩

def Distinct (service : BackupCodesService) (calls : List (Call service.codeLength)) : Prop :=
  (calls.flatMap (Call.codes service)).Nodup

theorem Distinct.earlier {earlier calls : List (Call service.codeLength)} (distinct : Distinct service calls)
    (before : earlier <+: calls) : Distinct service earlier := by
  obtain ⟨rest,rfl⟩ := before
  rw [Distinct,List.flatMap_append] at distinct
  exact distinct.of_append_left

theorem Call.mem_codes {call : Call service.codeLength} {userId : String} {code : RawCode service.codeLength}
    (returned : code ∈ call.codesFor service userId) : code ∈ call.codes service := by
  cases call with
  | generate user count choice =>
    rw [Call.codesFor] at returned
    split at returned
    next => exact returned
    next => cases returned
  | consume user text => cases returned
  | revoke user => cases returned

theorem Call.owner {call : Call service.codeLength} {userId other : String} {code : RawCode service.codeLength}
    (returned : code ∈ call.codesFor service userId) (others : code ∈ call.codesFor service other) : userId = other := by
  cases call with
  | generate user count choice =>
    rw [Call.codesFor] at returned others
    split at returned
    next same =>
      split at others
      next again => exact same.symm.trans again
      next => cases others
    next => cases returned
  | consume user text => cases returned
  | revoke user => cases returned

theorem Distinct.owner {calls : List (Call service.codeLength)} (distinct : Distinct service calls)
    {call others : Call service.codeLength} (member : call ∈ calls) (among : others ∈ calls) {userId other : String}
    {code : RawCode service.codeLength} (returned : code ∈ call.codesFor service userId)
    (again : code ∈ others.codesFor service other) : userId = other := by
  by_cases same : call = others
  · subst same
    exact Call.owner returned again
  · have apart := (List.nodup_flatMap.mp distinct).2
    have symmetric : Std.Symm (Function.onFun List.Disjoint (Call.codes service)) := ⟨fun _ _ disjoint => disjoint.symm⟩
    exact absurd (Call.mem_codes again) (apart.forall member among same (Call.mem_codes returned))

/-- No code is accepted for another user than the one it was returned to. -/
def Private (service : BackupCodesService) (unicode : Char → Text) (calls : List (Call service.codeLength)) : Prop :=
  ∀ earlier userId text, earlier ++ [.consume userId text] <+: calls →
    ∀ call ∈ earlier, ∀ owner ≠ userId, ∀ code ∈ call.codesFor service owner, Reads unicode text code.letters →
      (consume unicode userId text (Transition.run (step service unicode) .empty earlier)).1 = false

theorem private_of_distinct {calls : List (Call service.codeLength)} (distinct : Distinct service calls) :
    Private service unicode calls := by
  intro earlier userId text before call member owner differs code returned reads
  refine Bool.eq_false_iff.mpr fun accepted => differs ?_
  obtain ⟨other,among,found,again,shown⟩ := held_returned ((consume_answer userId text).mp accepted)
  obtain rfl := RawCode.eq_of_reads reads (reads_of_normalized shown)
  exact (distinct.earlier ((List.prefix_append _ _).trans before)).owner member among returned again

/-- The call is one of the user, and it is accepted. -/
def Call.accepted (unicode : Char → Text) (userId : String) (codes : Codes) : Call codeLength → Bool
  | .consume user text => user = userId && (InMemoryBackupCodesService.consume unicode user text codes).1
  | .generate _ _ _ | .revoke _ => false

def consumed (service : BackupCodesService) (unicode : Char → Text) (userId : String) :
    Codes → List (Call service.codeLength) → Nat
  | _,[] => 0
  | codes,call::rest =>
    (if call.accepted unicode userId codes then 1 else 0) +
      consumed service unicode userId (step service unicode codes call) rest

def generated (service : BackupCodesService) (userId : String) (calls : List (Call service.codeLength)) : Nat :=
  (calls.flatMap (Call.codesFor service userId)).length

theorem card_step {codes : Codes} {call : Call service.codeLength} {userId : String} (kept : call ≠ .revoke userId)
    (distinct : (call.codesFor service userId).Nodup)
    (fresh : ∀ code ∈ call.codesFor service userId, formatCode code.letters ∉ held codes userId) :
    (held (step service unicode codes call) userId).card + (if call.accepted unicode userId codes then 1 else 0) =
      (held codes userId).card + (call.codesFor service userId).length := by
  cases call with
  | generate user count choice =>
    rw [step,held_generate]
    by_cases same : userId = user
    · subst same
      rw [Call.codesFor,if_pos rfl] at distinct fresh ⊢
      have apart : Disjoint (held codes userId) (service.generate count choice).toFinset := by
        refine Finset.disjoint_right.mpr fun text new => ?_
        obtain ⟨code,rfl,drawn⟩ := mem_generated.mp new
        exact fresh code drawn
      have several : (service.generate count choice).Nodup := distinct.map fun _ _ => RawCode.formatCode_inj
      rw [if_pos rfl,Finset.card_union_of_disjoint apart,List.toFinset_card_of_nodup several,BackupCodesService.generate,
        List.length_map]
      exact rfl
    · rw [if_neg same,Call.codesFor,if_neg (Ne.symm same)]
      exact rfl
  | consume user text =>
    rw [step,held_consume]
    by_cases same : userId = user
    · subst same
      rw [if_pos rfl,Call.accepted,decide_eq_true rfl,Bool.true_and]
      by_cases member : normalizeCode unicode text ∈ held codes userId
      · rw [if_pos ((consume_answer userId text).mpr member)]
        exact Finset.card_erase_add_one member
      · rw [if_neg (mt (consume_answer userId text).mp member),Finset.erase_eq_of_notMem member]
        exact rfl
    · rw [if_neg same,Call.accepted,decide_eq_false (Ne.symm same)]
      exact rfl
  | revoke user =>
    have differs : userId ≠ user := fun same => kept (same ▸ rfl)
    rw [step,held_revoke,if_neg differs]
    exact rfl

theorem card_run {userId : String} {calls : List (Call service.codeLength)} {codes : Codes}
    (kept : .revoke userId ∉ calls) (distinct : (calls.flatMap (Call.codesFor service userId)).Nodup)
    (fresh : ∀ code ∈ calls.flatMap (Call.codesFor service userId), formatCode code.letters ∉ held codes userId) :
    (held (Transition.run (step service unicode) codes calls) userId).card + consumed service unicode userId codes calls =
      (held codes userId).card + generated service userId calls := by
  induction calls generalizing codes with
  | nil => exact rfl
  | cons call rest ih =>
    obtain ⟨differs,later⟩ := not_or.mp (mt List.mem_cons.mpr kept)
    rw [List.flatMap_cons] at distinct fresh
    obtain ⟨here,others,apart⟩ := List.nodup_append.mp distinct
    have first := @card_step service unicode codes call userId (Ne.symm differs) here
      fun code member => fresh code (List.mem_append_left _ member)
    have next := @ih (step service unicode codes call) later others fun code member kept => by
      rcases held_step kept with before | ⟨other,returned,shown⟩
      · exact fresh code (List.mem_append_right _ member) before
      · exact apart other returned code member (RawCode.formatCode_inj shown).symm
    rw [Transition.run_cons,consumed,generated,List.flatMap_cons,List.length_append]
    rw [generated] at next
    omega

/-- The codes of a user that remain are those generated since the last revocation and not consumed. -/
def Counted (service : BackupCodesService) (unicode : Char → Text) (calls : List (Call service.codeLength)) : Prop :=
  ∀ before since userId, before ++ since <+: calls → (before = [] ∨ ∃ earlier, before = earlier ++ [.revoke userId]) →
    .revoke userId ∉ since →
    let start := Transition.run (step service unicode) .empty before
    getRemainingCount userId (Transition.run (step service unicode) start since) +
      consumed service unicode userId start since = generated service userId since

theorem Call.codesFor_sublist (call : Call service.codeLength) (userId : String) :
    (call.codesFor service userId).Sublist (call.codes service) := by
  cases call with
  | generate user count choice =>
    rw [Call.codesFor]
    split
    next => exact List.Sublist.refl _
    next => exact List.nil_sublist _
  | consume user text => exact List.nil_sublist _
  | revoke user => exact List.nil_sublist _

theorem counted_of_distinct {calls : List (Call service.codeLength)} (distinct : Distinct service calls) :
    Counted service unicode calls := by
  intro before since userId first start kept
  have here := distinct.earlier first
  rw [Distinct,List.flatMap_append] at here
  obtain ⟨each,apart⟩ := List.nodup_flatMap.mp here.of_append_right
  have own : (since.flatMap (Call.codesFor service userId)).Nodup := by
    refine List.nodup_flatMap.mpr ⟨fun call member => (each call member).sublist (call.codesFor_sublist userId),?_⟩
    exact apart.imp fun disjoint code returned again => disjoint (Call.mem_codes returned) (Call.mem_codes again)
  have nothing : held (Transition.run (step service unicode) .empty before) userId = ∅ := by
    rcases start with rfl | ⟨earlier,rfl⟩
    · exact rfl
    · rw [Transition.run_append]
      exact (held_revoke userId userId).trans (if_pos rfl)
  have counted := @card_run service unicode userId since _ kept own fun code _ member =>
    absurd (nothing ▸ member) (Finset.notMem_empty _)
  rw [nothing,Finset.card_empty,Nat.zero_add] at counted
  exact counted

theorem meets_of_known (known : Known service.codeLength) (codes : Codes) (calls : List (Call service.codeLength)) :
    Transition.Meets (step service unicode) (Typable service unicode) codes calls := by
  refine Transition.meets_of_forall _ _ (fun _ call => ?_) codes calls
  cases call with
  | consume userId text => exact fun _ _ _ => known
  | generate user count choice => trivial
  | revoke user => trivial

theorem single_use_iff (service : BackupCodesService) (unicode : Char → Text) (calls : List (Call service.codeLength)) :
    (SingleUse service unicode calls ↔
        Transition.Meets (step service unicode) (Typable service unicode) .empty calls) ∧
      (Distinct service calls → Private service unicode calls ∧ Counted service unicode calls) :=
  ⟨⟨meets_of_single_use,single_use_of_meets⟩,fun distinct => ⟨private_of_distinct distinct,counted_of_distinct distinct⟩⟩

/-- A service with codes of six letters, as `ABCD-EF`. -/
def six : BackupCodesService := ⟨6,10⟩

def sixLetters : RawCode six.codeLength := ⟨['A','B','C','D','E','F'],rfl,by simp [alphabet]⟩

def ascii (char : Char) : Text := [char]

/-- Alice types the only code that was generated for her without the dash. -/
def undashed : List (Call six.codeLength) :=
  [.generate "alice" 1 fun _ => sixLetters,.consume "alice" sixLetters.letters]

theorem undashed_refused : ¬SingleUse six ascii undashed := by
  intro single
  have accepted := (single [.generate "alice" 1 fun _ => sixLetters] "alice" sixLetters.letters (List.prefix_refl _)).mpr
    ⟨sixLetters,.inr rfl,[],_,[],rfl,List.mem_cons_self,fun _ member => absurd member List.not_mem_nil⟩
  have refused : (consume ascii "alice" sixLetters.letters (Transition.run (step six ascii) .empty
      [.generate "alice" 1 fun _ => sixLetters])).1 = false := by decide
  exact Bool.false_ne_true (refused.symm.trans accepted)

def eight : BackupCodesService := ⟨8,10⟩

def eightLetters : RawCode eight.codeLength := ⟨['A','B','C','D','E','F','G','H'],rfl,by simp [alphabet]⟩

def otherLetters : RawCode eight.codeLength := ⟨['J','K','L','M','N','P','Q','R'],rfl,by simp [alphabet]⟩

/-- Two users with a code each. Alice types hers without the dash, types it again, and types Bob's; Bob types his. -/
def typed : List (Call eight.codeLength) :=
  [.generate "alice" 1 fun _ => eightLetters,.generate "bob" 1 fun _ => otherLetters,
    .consume "alice" eightLetters.letters,.consume "alice" eightLetters.letters,.consume "alice" otherLetters.letters,
    .consume "bob" otherLetters.letters]

theorem single_use_iff_eight : SingleUse eight ascii typed ∧ Private eight ascii typed ∧ Counted eight ascii typed := by
  have both := single_use_iff eight ascii typed
  have apart : eightLetters ≠ otherLetters := fun same => absurd (congrArg RawCode.letters same) (by decide)
  have distinct : Distinct eight typed := List.nodup_cons.mpr ⟨mt List.mem_singleton.mp apart,List.nodup_singleton _⟩
  exact ⟨both.1.mpr (meets_of_known (.inr rfl) _ _),both.2 distinct⟩

end InMemoryBackupCodesService

end CqrsDdd.Identity
