import LibVirtualGamepad.Driver.InstanceId

namespace LibVirtualGamepad

open WideString

def crSuccess : UInt32 := 0

-- What the configuration manager and the heap answer. The buffer has as many
-- units as the size call reported, whatever the list call wrote into it.
structure ConfigManager where
  sizeResult : UInt32
  length : UInt32
  allocated : Bool
  listResult : UInt32
  list : List WChar
  list_length : list.length = length.toNat

-- As for a pointer, a read outside the buffer has no result.
def endsInDoubleNul (list : List WChar) (length : Nat) : Option Bool :=
  match list[length - 1]? with
  | none => none
  | some last =>
      if last ≠ nul then some false
      else if length = 1 then some true
      else (list[length - 2]?).map fun before => decide (before = nul)

def suffixMatches (locale : CaseFold) (instanceId id : List WChar) : Option Bool :=
  match wcsrchr id (wide '&') with
  | none => none
  | some none => some false
  | some (some suffix) => wcsicmpEqual locale (suffix.drop 1) instanceId

-- The walk over the list, one string after the other up to the empty one.
def walkInstances (locale : CaseFold) (instanceId : List WChar) : List WChar → Option Bool
  | [] => none
  | c :: rest =>
      if c = nul then some false
      else
        match suffixMatches locale instanceId (c :: rest) with
        | none => none
        | some true => some true
        | some false =>
            match wcslen (c :: rest) with
            | none => none
            -- the first unit is one of the string's own
            | some n => walkInstances locale instanceId (rest.drop n)
termination_by list => list.length
decreasing_by
  simp only [List.length_drop, List.length_cons]
  omega

def previousInstancePresent (locale : CaseFold) (cm : ConfigManager)
    (instanceId : List WChar) : Option Bool :=
  if cm.sizeResult ≠ crSuccess ∨ cm.length = 0 ∨ cm.length > 1024 * 1024 then some true
  else if cm.allocated = false then some true
  else if cm.listResult ≠ crSuccess then some true
  else
    match endsInDoubleNul cm.list cm.length.toNat with
    | none => none
    | some false => some true
    | some true => walkInstances locale instanceId cm.list

-- The strings of a list up to the first empty one.
def instanceEntries (list : List WChar) : List (List WChar) :=
  (list.splitOn nul).takeWhile (· ≠ [])

-- The text after the last separator is the name, whatever its case.
def NamesInstance (locale : CaseFold) (name entry : List WChar) : Prop :=
  ∃ front suffix, entry = front ++ wide '&' :: suffix ∧ wide '&' ∉ suffix ∧
    suffix.map locale.fold = name.map locale.fold

-- A list ends with an empty string, which may be all of it.
def DoubleNul (list : List WChar) : Prop :=
  list = [nul] ∨ ∃ front, list = front ++ [nul, nul]

theorem DoubleNul.last {list : List WChar} (h : DoubleNul list) :
    list.getLast? = some nul := by
  rcases h with rfl | ⟨front, rfl⟩
  · rfl
  · simp

theorem DoubleNul.before {list : List WChar} (h : DoubleNul list) (hlen : list.length ≠ 1) :
    list.dropLast.getLast? = some nul := by
  rcases h with rfl | ⟨front, rfl⟩
  · exact absurd rfl hlen
  · simp

theorem endsInDoubleNul_eq (list : List WChar) (hne : list ≠ []) :
    ∃ ends, endsInDoubleNul list list.length = some ends ∧ (ends = true ↔ DoubleNul list) := by
  induction list using List.reverseRecOn with
  | nil => exact absurd rfl hne
  | append_singleton front last _ =>
      have hlast : (front ++ [last])[(front ++ [last]).length - 1]? = some last := by simp
      unfold endsInDoubleNul
      rw [hlast]
      by_cases hnul : last = nul
      · subst hnul
        induction front using List.reverseRecOn with
        | nil => exact ⟨true, by simp, by simp [DoubleNul]⟩
        | append_singleton front before _ =>
            have hbefore : (front ++ [before] ++ [nul])[(front ++ [before] ++ [nul]).length - 2]? =
                some before := by simp
            rw [hbefore]
            refine ⟨decide (before = nul), by simp, ?_⟩
            rw [decide_eq_true_iff]
            constructor
            · intro h
              exact Or.inr ⟨front, by simp [h]⟩
            · intro h
              simpa using h.before (by simp)
      · refine ⟨false, by simp [hnul], iff_of_false (by simp) ?_⟩
        intro h
        exact hnul (by simpa using h.last)

theorem instanceEntries_entry (entry rest : List WChar) (hentry : nul ∉ entry)
    (hne : entry ≠ []) :
    instanceEntries (entry ++ nul :: rest) = entry :: instanceEntries rest := by
  have hunits : ∀ c ∈ entry, (c == nul) = false := by
    intro c hc
    have hcne : c ≠ nul := fun h => hentry (h ▸ hc)
    simpa using hcne
  unfold instanceEntries List.splitOn
  rw [List.splitOnP_append_cons_of_forall_mem hunits nul (by simp), List.takeWhile_cons_of_pos]
  simpa using hne

theorem instanceEntries_empty (rest : List WChar) : instanceEntries (nul :: rest) = [] := by
  unfold instanceEntries List.splitOn
  rw [List.splitOnP_cons_eq_if_modifyHead]
  simp

theorem suffixMatches_entry (locale : CaseFold) (name nameRest entry rest : List WChar)
    (hname : nul ∉ name) (hentry : nul ∉ entry) :
    ∃ matched, suffixMatches locale (name ++ nul :: nameRest) (entry ++ nul :: rest) =
        some matched ∧
      (matched = true ↔ NamesInstance locale name entry) := by
  have hamp : wide '&' ≠ nul := by decide
  unfold suffixMatches
  cases hfind : rfind entry (wide '&') with
  | none =>
      have hnot := (rfind_eq_none_iff entry _).mp hfind
      rw [wcsrchr_absent entry rest _ hentry hamp hnot]
      refine ⟨false, rfl, iff_of_false (by simp) ?_⟩
      rintro ⟨front, suffix, rfl, -, -⟩
      exact hnot (by simp)
  | some i =>
      obtain ⟨front, suffix, rfl, hsuffix, -⟩ := (rfind_eq_some_iff entry _ i).mp hfind
      have hfrontNul : nul ∉ front := fun h => hentry (by simp [h])
      have hsuffixNul : nul ∉ suffix := fun h => hentry (by simp [h])
      have hlast := wcsrchr_last front suffix rest _ hfrontNul hsuffixNul hamp hsuffix
      rw [hlast]
      refine ⟨decide (suffix.map locale.fold = name.map locale.fold), ?_, ?_⟩
      · exact wcsicmpEqual_terminated locale suffix name rest nameRest hsuffixNul hname
      · rw [decide_eq_true_iff]
        constructor
        · intro h
          exact ⟨front, suffix, rfl, hsuffix, h⟩
        · rintro ⟨front', suffix', heq, hsuffix', hfold⟩
          -- the last separator is at one place only
          have hlen := rfind_append_cons front suffix _ hsuffix
          rw [heq, rfind_append_cons front' suffix' _ hsuffix', Option.some_inj] at hlen
          have hparts := (List.append_inj heq hlen.symm).2
          rw [(List.cons.inj hparts).2]
          exact hfold

-- What is behind the first string still ends with an empty string.
theorem DoubleNul.split {c : WChar} {rest : List WChar} (h : DoubleNul (c :: rest))
    (hc : c ≠ nul) :
    ∃ entry tail, c :: rest = entry ++ nul :: tail ∧ nul ∉ entry ∧ entry ≠ [] ∧
      DoubleNul tail := by
  have hmem : nul ∈ c :: rest := List.mem_of_getLast? h.last
  obtain ⟨entry, tail, heq, hentry⟩ := List.eq_append_cons_of_mem hmem
  have hne : entry ≠ [] := by
    rintro rfl
    exact hc (List.cons.inj heq).1
  refine ⟨entry, tail, heq, hentry, hne, ?_⟩
  rw [heq] at h
  rcases List.eq_nil_or_concat tail with rfl | ⟨front, last, rfl⟩
  · have hbefore := h.before (by simpa using hne)
    rw [List.dropLast_concat] at hbefore
    exact absurd (List.mem_of_getLast? hbefore) hentry
  · have hgroup : entry ++ nul :: (front ++ [last]) = (entry ++ nul :: front) ++ [last] := by simp
    rw [List.concat_eq_append, hgroup] at h
    have hlast : last = nul := by simpa only [List.getLast?_concat, Option.some_inj] using h.last
    have hlong : (entry ++ nul :: front ++ [last]).length ≠ 1 := by
      simp only [List.length_append, List.length_cons]
      omega
    have hbefore := h.before hlong
    rw [List.dropLast_concat] at hbefore
    rcases List.eq_nil_or_concat front with rfl | ⟨front, before, rfl⟩
    · exact Or.inl (by rw [hlast]; rfl)
    · have hgroup' : entry ++ nul :: (front ++ [before]) = (entry ++ nul :: front) ++ [before] := by
        simp
      rw [List.concat_eq_append, hgroup', List.getLast?_concat, Option.some_inj] at hbefore
      exact Or.inr ⟨front, by simp [hlast, hbefore]⟩

-- A walk that starts at a string of a list with the final empty string reads
-- nothing behind it.
theorem walkInstances_eq (locale : CaseFold) (name nameRest : List WChar) (hname : nul ∉ name)
    (list : List WChar) (hlist : DoubleNul list) :
    ∃ present, walkInstances locale (name ++ nul :: nameRest) list = some present ∧
      (present = true ↔ ∃ entry ∈ instanceEntries list, NamesInstance locale name entry) := by
  induction hlen : list.length using Nat.strong_induction_on generalizing list with
  | _ len ih =>
      cases list with
      | nil => simp [DoubleNul] at hlist
      | cons c rest =>
          unfold walkInstances
          by_cases hc : c = nul
          · subst hc
            refine ⟨false, by simp, iff_of_false (by simp) ?_⟩
            rw [instanceEntries_empty]
            simp
          · obtain ⟨entry, tail, heq, hentry, hne, htail⟩ := hlist.split hc
            obtain ⟨matched, hmatched, hnames⟩ :=
              suffixMatches_entry locale name nameRest entry tail hname hentry
            have hnext : rest.drop entry.length = tail := by
              calc rest.drop entry.length = (c :: rest).drop (entry.length + 1) := rfl
                _ = tail := by rw [heq, ← List.drop_drop, List.drop_left]; rfl
            have hshorter : tail.length < len := by
              have hsizes := congrArg List.length heq
              simp only [List.length_append, List.length_cons] at hsizes hlen
              omega
            obtain ⟨present, hwalk, hpresent⟩ := ih tail.length hshorter tail htail rfl
            rw [if_neg hc, heq, hmatched, wcslen_terminated entry tail hentry,
              instanceEntries_entry entry tail hentry hne]
            cases matched with
            | true => exact ⟨true, rfl, iff_of_true rfl ⟨entry, by simp, hnames.mp rfl⟩⟩
            | false =>
                have hnot : ¬NamesInstance locale name entry := fun h => by simpa using hnames.mpr h
                refine ⟨present, by simp [hnext, hwalk], ?_⟩
                rw [hpresent, List.exists_mem_cons_iff, or_iff_right hnot]

-- Only a complete list in which no entry has the name lets the child be created.
theorem previous_instance_fails_closed (locale : CaseFold) (cm : ConfigManager)
    (name nameRest : List WChar) (hname : nul ∉ name) :
    ∃ present, previousInstancePresent locale cm (name ++ nul :: nameRest) = some present ∧
      (present = false ↔
        cm.sizeResult = crSuccess ∧ 0 < cm.length ∧ cm.length ≤ 1024 * 1024 ∧
        cm.allocated = true ∧ cm.listResult = crSuccess ∧
        (cm.list = [nul] ∨ ∃ front, cm.list = front ++ [nul, nul]) ∧
        ∀ entry ∈ instanceEntries cm.list,
          ¬∃ front suffix, entry = front ++ wide '&' :: suffix ∧ wide '&' ∉ suffix ∧
            suffix.map locale.fold = name.map locale.fold) := by
  have hzero : 0 < cm.length ↔ cm.length ≠ 0 := UInt32.pos_iff_ne_zero
  have hbound : cm.length ≤ 1024 * 1024 ↔ ¬cm.length > 1024 * 1024 := UInt32.not_lt.symm
  unfold previousInstancePresent
  by_cases hsize : cm.sizeResult ≠ crSuccess ∨ cm.length = 0 ∨ cm.length > 1024 * 1024
  · rw [if_pos hsize]
    refine ⟨true, rfl, iff_of_false (by simp) ?_⟩
    rintro ⟨hresult, hpos, hle, -⟩
    rcases hsize with h | h | h
    · exact h hresult
    · exact hzero.mp hpos h
    · exact hbound.mp hle h
  · rw [if_neg hsize]
    simp only [not_or, not_not] at hsize
    obtain ⟨hresult, hpos, hle⟩ := hsize
    by_cases halloc : cm.allocated = false
    · rw [if_pos halloc]
      refine ⟨true, rfl, iff_of_false (by simp) ?_⟩
      simp [halloc]
    by_cases hlist : cm.listResult ≠ crSuccess
    · rw [if_neg halloc, if_pos hlist]
      refine ⟨true, rfl, iff_of_false (by simp) ?_⟩
      simp [hlist]
    rw [if_neg halloc, if_neg hlist, ← cm.list_length]
    have hne : cm.list ≠ [] := by
      intro hnil
      have hlen := cm.list_length
      rw [hnil] at hlen
      exact hpos (UInt32.toNat_inj.mp hlen.symm)
    obtain ⟨ends, hends, hiff⟩ := endsInDoubleNul_eq cm.list hne
    rw [hends]
    cases ends with
    | false =>
        refine ⟨true, rfl, iff_of_false (by simp) ?_⟩
        rintro ⟨-, -, -, -, -, hdouble, -⟩
        simpa using hiff.mpr hdouble
    | true =>
        have hdouble : DoubleNul cm.list := hiff.mp rfl
        obtain ⟨present, hwalk, hpresent⟩ :=
          walkInstances_eq locale name nameRest hname cm.list hdouble
        refine ⟨present, hwalk, ?_⟩
        have habsent : present = false ↔
            ∀ entry ∈ instanceEntries cm.list, ¬NamesInstance locale name entry := by
          rw [← Bool.not_eq_true, hpresent]
          simp only [not_exists, not_and]
        rw [habsent]
        constructor
        · intro h
          exact ⟨hresult, hzero.mpr hpos, hbound.mpr hle, by simpa using halloc,
            not_not.mp hlist, hdouble, h⟩
        · rintro ⟨-, -, -, -, -, -, h⟩
          exact h

-- A list that ends before its second terminator.
def unterminatedList : ConfigManager where
  sizeResult := crSuccess
  length := 2
  allocated := true
  listResult := crSuccess
  list := literal "xx"
  list_length := by decide

theorem previous_instance_fails_closed_unterminated :
    ∃ present, previousInstancePresent ascii unterminatedList (literal "a" ++ nul :: []) =
        some present ∧
      (present = false ↔
        unterminatedList.sizeResult = crSuccess ∧ 0 < unterminatedList.length ∧
        unterminatedList.length ≤ 1024 * 1024 ∧ unterminatedList.allocated = true ∧
        unterminatedList.listResult = crSuccess ∧
        (unterminatedList.list = [nul] ∨
          ∃ front, unterminatedList.list = front ++ [nul, nul]) ∧
        ∀ entry ∈ instanceEntries unterminatedList.list,
          ¬∃ front suffix, entry = front ++ wide '&' :: suffix ∧ wide '&' ∉ suffix ∧
            suffix.map ascii.fold = (literal "a").map ascii.fold) :=
  previous_instance_fails_closed ascii unterminatedList (literal "a") [] (by decide)

end LibVirtualGamepad
