/-
Reading all open tasks page by page.

The rows of a page are the next ones in the order of the database, since the cursor is the id of the
last row that was read and is decoded to that id.  One more row than the page has room for is read,
so the page that ends the list has no cursor.
-/
import Arena402.Proofs.Mcp.Claim

namespace Arena402.Mcp

open Py

/-! ### Identifiers and cursors -/

/-- `^[A-Za-z0-9][A-Za-z0-9._:-]*$`, of at most 256 characters. -/
structure IsIdentifier (id : String) : Prop where
  given : id ≠ ""
  length : id.length ≤ 256
  first : ∀ c ∈ id.toList.head?, c.isAlphanum = true
  chars : ∀ c ∈ id.toList, c.isAlphanum = true ∨ "._:-".toList.contains c = true

theorem IsIdentifier.ascii {id : String} (h : IsIdentifier id) : ∀ c ∈ id.toList, c.toNat < 128 := by
  intro c hc
  rcases h.chars c hc with halnum | hother
  · exact toNat_of_isAlphanum halnum
  · have hall : ("._:-".toList.all fun c => decide (c.toNat < 128)) = true := by decide
    exact of_decide_eq_true (List.all_eq_true.mp hall c (List.contains_iff_mem.mp hother))

/-- The UTF-8 text of an identifier has a byte for each character. -/
theorem IsIdentifier.byteLength {id : String} (h : IsIdentifier id) :
    id.toByteArray.data.toList.length = id.length := by
  have hsize := utf8ByteSize_ascii h.ascii
  rw [String.ofList_toList] at hsize
  rw [Array.length_toList]
  exact hsize

/-- Data in the URL-safe form is no white space. -/
theorem toUrlSafe_not_space {c : Char} (h : Base64.isData c = true) :
    isSpace (Base64.toUrlSafe c) = false := by
  unfold Base64.toUrlSafe
  by_cases hplus : c = '+'
  · rw [if_pos hplus]
    decide
  rw [if_neg hplus]
  by_cases hslash : c = '/'
  · rw [if_pos hslash]
    decide
  rw [if_neg hslash]
  have hrange : 48 ≤ c.toNat ∧ c.toNat < 128 := by
    unfold Base64.isData Base64.sextetOf at h
    by_cases hupper : 65 ≤ c.toNat ∧ c.toNat ≤ 90
    · omega
    rw [if_neg hupper] at h
    by_cases hlower : 97 ≤ c.toNat ∧ c.toNat ≤ 122
    · omega
    rw [if_neg hlower] at h
    by_cases hdigit : 48 ≤ c.toNat ∧ c.toNat ≤ 57
    · omega
    rw [if_neg hdigit, if_neg hplus, if_neg hslash] at h
    cases h
  unfold isSpace
  simp only [Bool.or_eq_false_iff, Bool.and_eq_false_iff, decide_eq_false_iff_not]
  omega

/-- The characters of a cursor. -/
theorem encodeCursor_toList (id : String) : (encodeCursor id).toList =
    (Base64.unpad (Base64.encode id.toByteArray.data.toList)).map Base64.toUrlSafe := by
  unfold encodeCursor
  dsimp only
  rw [String.toList_ofList, Base64.unpad_toUrlSafe]

/-- **A cursor is accepted, and is decoded to the id that it was made of.** -/
theorem decode_encodeCursor {isalnum : Char → Bool}
    (halnum : ∀ c : Char, c.isAlphanum = true → isalnum c = true) {id : String}
    (h : IsIdentifier id) : encodeCursor id ≠ "" ∧ decodeCursor isalnum (encodeCursor id) = .ok id := by
  obtain ⟨hdata, hsize, hne⟩ := Base64.unpad_encode id.toByteArray.data.toList
  have hbytes : id.toByteArray.data.toList ≠ [] := by
    intro hempty
    have hlength := h.byteLength
    rw [hempty, List.length_nil] at hlength
    exact h.given (String.length_eq_zero_iff.mp hlength.symm)
  have hchars := encodeCursor_toList id
  have hgiven : (encodeCursor id).toList ≠ [] := by
    rw [hchars]
    simpa using hne hbytes
  refine ⟨fun hempty => hgiven (by rw [hempty]; rfl), ?_⟩
  have hshort : (encodeCursor id).toList.length ≤ 512 := by
    rw [hchars, List.length_map]
    have hbound := h.byteLength
    have hlimit := h.length
    omega
  have hblank : (encodeCursor id).toList.any isSpace = false := by
    rw [hchars, List.any_map, List.any_eq_false]
    intro c hc
    simpa using toUrlSafe_not_space (hdata c hc)
  have hpadded : ((encodeCursor id).toList ++ Base64.padding (encodeCursor id).toList).map
      Base64.ofUrlSafe = Base64.encode id.toByteArray.data.toList := by
    have hpadding : Base64.padding (encodeCursor id).toList =
        Base64.padding (Base64.unpad (Base64.encode id.toByteArray.data.toList)) := by
      rw [Base64.padding, Base64.padding, hchars, List.length_map]
    have hback : (Base64.unpad (Base64.encode id.toByteArray.data.toList)).map
        (Base64.ofUrlSafe ∘ Base64.toUrlSafe) =
          Base64.unpad (Base64.encode id.toByteArray.data.toList) := by
      have hid : ∀ c ∈ Base64.unpad (Base64.encode id.toByteArray.data.toList),
          (Base64.ofUrlSafe ∘ Base64.toUrlSafe) c = c := fun c hc =>
        Base64.ofUrlSafe_toUrlSafe (Or.inl (hdata c hc))
      exact (List.map_congr_left hid).trans (List.map_id' _)
    have hpads : ∀ cs, (Base64.padding cs).map Base64.ofUrlSafe = Base64.padding cs := by
      intro cs
      rw [Base64.padding, List.map_replicate]
      rfl
    rw [List.map_append, hpadding, hpads, hchars, List.map_map, hback, Base64.unpad_padding]
  have hcontent : ∀ first rest, id.toList = first :: rest →
      ¬ ((first :: rest).length > 256 ∨ isalnum first = false ∨
        (first :: rest).any (fun c => !(isalnum c || "._:-".toList.contains c)) = true) := by
    intro first rest hid
    have hlength : (first :: rest).length ≤ 256 := by
      rw [← hid, String.length_toList]
      exact h.length
    have hfirst : isalnum first = true := halnum first (h.first first (by rw [hid]; rfl))
    have hall : ((first :: rest).any fun c => !(isalnum c || "._:-".toList.contains c)) = false := by
      rw [List.any_eq_false]
      intro c hc
      rcases h.chars c (hid ▸ hc) with hc | hc
      · simp [halnum c hc]
      · rw [hc]
        simp
    rintro (hlong | hother | hany)
    · omega
    · rw [hfirst] at hother
      cases hother
    · rw [hall] at hany
      cases hany
  have hchecks : ¬ ((encodeCursor id).toList = [] ∨ (encodeCursor id).toList.length > 512 ∨
      (encodeCursor id).toList.any isSpace = true) := by
    rintro (hempty | hlong | hspace)
    · exact hgiven hempty
    · omega
    · rw [hblank] at hspace
      cases hspace
  unfold decodeCursor
  dsimp only
  rw [if_neg hchecks, hpadded, Base64.decodeStrict_encode]
  dsimp only
  rw [Array.toArray_toList, fromUTF8?_toByteArray]
  dsimp only
  cases hid : id.toList with
  | nil => exact absurd (String.toList_eq_nil_iff.mp hid) h.given
  | cons first rest =>
      dsimp only
      rw [if_neg (hcontent first rest hid)]

/-! ### The order of the database -/

/-- A total order of texts. -/
structure TotalOrder (le : String → String → Bool) : Prop where
  total : ∀ a b, le a b = true ∨ le b a = true
  trans : ∀ a b c, le a b = true → le b c = true → le a c = true
  antisymm : ∀ a b, le a b = true → le b a = true → a = b

variable {le : String → String → Bool} {rows : List TaskRow}

/-- The rows in the order of their ids. -/
def inOrder (le : String → String → Bool) (rows : List TaskRow) : List TaskRow :=
  rows.mergeSort fun a b => le a.task.taskId b.task.taskId

theorem perm_inOrder (le : String → String → Bool) (rows : List TaskRow) :
    (inOrder le rows).Perm rows :=
  List.mergeSort_perm _ _

theorem TotalOrder.pairwise (h : TotalOrder le) (rows : List TaskRow) :
    (inOrder le rows).Pairwise fun a b => le a.task.taskId b.task.taskId = true :=
  List.pairwise_mergeSort
    (fun a b c => h.trans a.task.taskId b.task.taskId c.task.taskId)
    (fun a b => by simpa using h.total a.task.taskId b.task.taskId) rows

/-- Rows with distinct ids have one order. -/
theorem TotalOrder.unique (h : TotalOrder le) {l l' : List TaskRow}
    (hids : (l.map (·.task.taskId)).Nodup) (hperm : l.Perm l')
    (hl : l.Pairwise fun a b => le a.task.taskId b.task.taskId = true)
    (hl' : l'.Pairwise fun a b => le a.task.taskId b.task.taskId = true) : l = l' := by
  refine List.Perm.eq_of_pairwise ?_ hl hl' hperm
  intro a b ha hb hab hba
  exact List.inj_on_of_nodup_map hids ha (hperm.mem_iff.mpr hb) (h.antisymm _ _ hab hba)

theorem TotalOrder.inOrder_perm (h : TotalOrder le) {rows' : List TaskRow}
    (hids : (rows.map (·.task.taskId)).Nodup) (hperm : rows.Perm rows') :
    inOrder le rows = inOrder le rows' :=
  h.unique (((perm_inOrder le rows).map _).nodup_iff.mpr hids)
    ((perm_inOrder le rows).trans (hperm.trans (perm_inOrder le rows').symm))
    (h.pairwise rows) (h.pairwise rows')

/-- The rows after the id of a row are those behind it. -/
theorem TotalOrder.after (h : TotalOrder le) (hids : (rows.map (·.task.taskId)).Nodup)
    {front back : List TaskRow} {last : TaskRow} (hsplit : inOrder le rows = front ++ last :: back) :
    inOrder le (rows.filter fun row => !le row.task.taskId last.task.taskId) = back := by
  have hsorted := h.pairwise rows
  have hnodup : ((inOrder le rows).map (·.task.taskId)).Nodup :=
    ((perm_inOrder le rows).map _).nodup_iff.mpr hids
  rw [hsplit] at hsorted hnodup
  obtain ⟨-, hrest, hcross⟩ := List.pairwise_append.mp hsorted
  obtain ⟨hlast, hback⟩ := List.pairwise_cons.mp hrest
  rw [List.map_append, List.map_cons] at hnodup
  obtain ⟨-, hnodupRest, -⟩ := List.nodup_append.mp hnodup
  have hkeep : (inOrder le rows).filter (fun row => !le row.task.taskId last.task.taskId) = back := by
    have hfront : front.filter (fun row => !le row.task.taskId last.task.taskId) = [] := by
      rw [List.filter_eq_nil_iff]
      intro row hrow
      simpa using hcross row hrow last List.mem_cons_self
    have hself : le last.task.taskId last.task.taskId = true := by
      rcases h.total last.task.taskId last.task.taskId with hle | hle <;> exact hle
    have hall : back.filter (fun row => !le row.task.taskId last.task.taskId) = back := by
      rw [List.filter_eq_self]
      intro row hrow
      have hne : row.task.taskId ≠ last.task.taskId := by
        intro heq
        exact (List.nodup_cons.mp hnodupRest).1 (heq ▸ List.mem_map_of_mem hrow)
      have hnot : ¬ le row.task.taskId last.task.taskId = true := fun hle =>
        hne (h.antisymm _ _ hle (hlast row hrow))
      simpa using hnot
    rw [hsplit, List.filter_append, hfront, List.nil_append, List.filter_cons_of_neg (by simp [hself]),
      hall]
  have hperm : (rows.filter fun row => !le row.task.taskId last.task.taskId).Perm back := by
    rw [← hkeep]
    exact ((perm_inOrder le rows).filter _).symm
  refine h.unique ?_ ((perm_inOrder le _).trans hperm) (h.pairwise _) hback
  refine ((perm_inOrder le _).map _).nodup_iff.mpr ?_
  exact hids.sublist ((List.filter_sublist).map _)

/-! ### One page -/

variable {isalnum : Char → Bool} {principal : ExecutionTokenClaims} {tables : Tables}
variable {listed : Except McpError (List GatewayBinding)} {now : UtcDateTime} {limit : Nat}
variable {cursor : Option String} {front rest : List TaskRow}

/-- The cursor after these rows were read. -/
def cursorAfter (front : List TaskRow) : Option String :=
  front.getLast?.map fun row => encodeCursor row.task.taskId

/-- What a call can rely on: the principal may read, its binding is there, and the open tasks of the
    binding are these. -/
structure Serves (principal : ExecutionTokenClaims) (tables : Tables)
    (listed : Except McpError (List GatewayBinding)) (now : UtcDateTime) (rows : List TaskRow) :
    Prop where
  scope : requireScope principal "task:read" = .ok ()
  binding : ∃ binding, bindingFor principal listed = .ok binding
  openTasks : (tables.openTasks principal.bindingId principal.bindingEpoch now).Perm rows

/-- The page after the rows that were read. -/
def pageOf (principal : ExecutionTokenClaims) (limit : Nat) (rest : List TaskRow) : Page where
  tasks := (rest.take limit).map (entryOf principal)
  hasMore := rest.length > limit
  nextCursor := if rest.length > limit then cursorAfter (rest.take limit) else none

/-- The rows that a call reads: those behind the last one, with one more than the limit. -/
theorem listConnectorTaskRoutes_eq (h : TotalOrder le) (hlimit : limit ≤ 50)
    (hserves : Serves principal tables listed now rows)
    (hids : (rows.map (·.task.taskId)).Nodup) (hnames : ∀ row ∈ rows, IsIdentifier row.task.taskId)
    (hsplit : inOrder le rows = front ++ rest) :
    tables.listConnectorTaskRoutes le principal.bindingId principal.bindingEpoch
      (front.getLast?.map fun row => row.task.taskId) (limit + 1) now = .ok (rest.take (limit + 1)) := by
  have hbounds : ¬ (limit + 1 < 1 ∨ limit + 1 > 51) := by omega
  have hperm : ∀ p : TaskRow → Bool,
      ((tables.openTasks principal.bindingId principal.bindingEpoch now).filter p).Perm
        (rows.filter p) := fun p => hserves.openTasks.filter p
  have hsorted : ∀ p : TaskRow → Bool,
      inOrder le ((tables.openTasks principal.bindingId principal.bindingEpoch now).filter p) =
        inOrder le (rows.filter p) := by
    intro p
    refine h.inOrder_perm ?_ (hperm p)
    refine ((hperm p).map _).nodup_iff.mpr ?_
    exact hids.sublist (List.filter_sublist.map _)
  have hvalid : (front.getLast?.map fun row => row.task.taskId).any
      (fun id => id = "" || id.length > 256) = false := by
    cases hlast : front.getLast? with
    | none => rfl
    | some last =>
        have hmem : last ∈ rows := by
          refine (perm_inOrder le rows).mem_iff.mp ?_
          rw [hsplit]
          exact List.mem_append_left _ (List.mem_of_getLast? hlast)
        have hname := hnames last hmem
        simp [hname.given, hname.length]
  have hrest : inOrder le (rows.filter fun row =>
      (front.getLast?.map fun row => row.task.taskId).all fun id => !le row.task.taskId id) = rest := by
    cases hlast : front.getLast? with
    | none =>
        have hnil : front = [] := List.getLast?_eq_none_iff.mp hlast
        rw [hnil, List.nil_append] at hsplit
        simpa using hsplit
    | some last =>
        obtain ⟨init, hinit⟩ := List.getLast?_eq_some_iff.mp hlast
        rw [hinit, List.append_assoc] at hsplit
        simpa using h.after hids hsplit
  unfold Tables.listConnectorTaskRoutes
  rw [checkBinding_ok, hvalid, if_neg hbounds]
  show Except.ok ((inOrder le _).take (limit + 1)) = _
  rw [hsorted, hrest]

theorem sync_page (h : TotalOrder le)
    (halnum : ∀ c : Char, c.isAlphanum = true → isalnum c = true) (hlimit : limit ≤ 50)
    (hserves : Serves principal tables listed now rows)
    (hids : (rows.map (·.task.taskId)).Nodup) (hnames : ∀ row ∈ rows, IsIdentifier row.task.taskId)
    (hsplit : inOrder le rows = front ++ rest) :
    sync le isalnum tables principal listed (cursorAfter front) limit now =
      .ok (pageOf principal limit rest) := by
  obtain ⟨binding, hbinding⟩ := hserves.binding
  have hafter : afterTaskId isalnum (cursorAfter front) =
      .ok (front.getLast?.map fun row => row.task.taskId) := by
    unfold afterTaskId cursorAfter
    cases hlast : front.getLast? with
    | none => rfl
    | some last =>
        have hmem : last ∈ rows := by
          refine (perm_inOrder le rows).mem_iff.mp ?_
          rw [hsplit]
          exact List.mem_append_left _ (List.mem_of_getLast? hlast)
        obtain ⟨hgiven, hdecoded⟩ := decode_encodeCursor halnum (hnames last hmem)
        simp [hgiven, hdecoded, Option.filter, Except.map]
  have hmore : (rest.take (limit + 1)).length > limit ↔ rest.length > limit := by
    rw [List.length_take]
    omega
  have htake : (rest.take (limit + 1)).take limit = rest.take limit := by
    rw [List.take_take, Nat.min_eq_left (Nat.le_succ limit)]
  unfold sync
  rw [hserves.scope, hbinding]
  simp only [bind, Except.bind]
  rw [hafter]
  dsimp only
  rw [listConnectorTaskRoutes_eq h hlimit hserves hids hnames hsplit]
  dsimp only
  rw [htake]
  unfold pageOf cursorAfter
  by_cases hlong : rest.length > limit
  · rw [if_pos hlong, if_pos (hmore.mpr hlong), decide_eq_true (hmore.mpr hlong),
      decide_eq_true hlong]
  · rw [if_neg hlong, if_neg (hmore.not.mpr hlong), decide_eq_false (hmore.not.mpr hlong),
      decide_eq_false hlong]

/-! ### All pages -/

/-- What the pages hold of the rows that were not read before. -/
structure Reads (isalnum : Char → Bool) (principal : ExecutionTokenClaims) (limit : Nat)
    (rest : List TaskRow) (pages : List Page) : Prop where
  tasks : pages.flatMap (·.tasks) = rest.map (entryOf principal)
  sizes : ∀ page ∈ pages, page.tasks.length ≤ limit
  cursors : ∀ page ∈ pages, ∀ cursor ∈ page.nextCursor, ∃ last ∈ page.tasks.getLast?,
    decodeCursor isalnum cursor = .ok last.taskId

/-- A page with a cursor ends with the row that the cursor was made of. -/
theorem pageOf_cursor (principal : ExecutionTokenClaims) (limit : Nat)
    (halnum : ∀ c : Char, c.isAlphanum = true → isalnum c = true)
    (hnames : ∀ row ∈ rest, IsIdentifier row.task.taskId) (text : String)
    (hcursor : (pageOf principal limit rest).nextCursor = some text) :
    ∃ last ∈ (pageOf principal limit rest).tasks.getLast?,
      decodeCursor isalnum text = .ok last.taskId := by
  unfold pageOf at hcursor
  dsimp only at hcursor
  split at hcursor
  · obtain ⟨last, hlast, rfl⟩ := Option.map_eq_some_iff.mp hcursor
    refine ⟨entryOf principal last, ?_, ?_⟩
    · show ((rest.take limit).map (entryOf principal)).getLast? = some (entryOf principal last)
      rw [List.getLast?_map, hlast]
      rfl
    · have hmem : last ∈ rest := List.mem_of_mem_take (List.mem_of_getLast? hlast)
      exact (decode_encodeCursor halnum (hnames last hmem)).2
  · cases hcursor

theorem pageOf_size (principal : ExecutionTokenClaims) (limit : Nat) (rest : List TaskRow) :
    (pageOf principal limit rest).tasks.length ≤ limit := by
  show ((rest.take limit).map (entryOf principal)).length ≤ limit
  rw [List.length_map]
  exact List.length_take_le limit rest

/-- Every page is followed by the rows behind it, until none is left. -/
theorem follow_reads (h : TotalOrder le)
    (halnum : ∀ c : Char, c.isAlphanum = true → isalnum c = true)
    {tables : Nat → Tables} {listed : Nat → Except McpError (List GatewayBinding)}
    {now : Nat → UtcDateTime} (hpositive : 1 ≤ limit) (hlimit : limit ≤ 50)
    (hserves : ∀ call, Serves principal (tables call) (listed call) (now call) rows)
    (hids : (rows.map (·.task.taskId)).Nodup) (hnames : ∀ row ∈ rows, IsIdentifier row.task.taskId) :
    ∀ (fuel call : Nat) (front rest : List TaskRow), inOrder le rows = front ++ rest →
      rest.length < fuel →
      ∃ pages, follow (fun call cursor =>
          sync le isalnum (tables call) principal (listed call) cursor limit (now call)) fuel call
            (cursorAfter front) = some (.ok pages) ∧ Reads isalnum principal limit rest pages := by
  intro fuel
  induction fuel with
  | zero =>
      intro call front rest _ hfuel
      exact absurd hfuel (Nat.not_lt_zero _)
  | succ fuel ih =>
      intro call front rest hsplit hfuel
      have hrestNames : ∀ row ∈ rest, IsIdentifier row.task.taskId := by
        intro row hrow
        refine hnames row ((perm_inOrder le rows).mem_iff.mp ?_)
        rw [hsplit]
        exact List.mem_append_right _ hrow
      have hpage := sync_page h halnum hlimit (hserves call) hids hnames hsplit
      have hown := pageOf_cursor principal limit halnum hrestNames
      unfold follow
      rw [hpage]
      dsimp only
      by_cases hlong : rest.length > limit
      · have hne : rest.take limit ≠ [] := by
          intro hempty
          have hlength := congrArg List.length hempty
          rw [List.length_take, List.length_nil] at hlength
          omega
        obtain ⟨last, hlast⟩ : ∃ last, (rest.take limit).getLast? = some last :=
          Option.ne_none_iff_exists'.mp fun hnone => hne (List.getLast?_eq_none_iff.mp hnone)
        have hcursor : (pageOf principal limit rest).nextCursor =
            some (encodeCursor last.task.taskId) := by
          unfold pageOf cursorAfter
          dsimp only
          rw [if_pos hlong, hlast]
          rfl
        have hnextCursor : cursorAfter (front ++ rest.take limit) =
            some (encodeCursor last.task.taskId) := by
          unfold cursorAfter
          rw [List.getLast?_append, hlast]
          rfl
        have hnextSplit : inOrder le rows = (front ++ rest.take limit) ++ rest.drop limit := by
          rw [List.append_assoc, List.take_append_drop]
          exact hsplit
        obtain ⟨pages, hpages, hreads⟩ := ih (call + 1) (front ++ rest.take limit) (rest.drop limit)
          hnextSplit (by rw [List.length_drop]; omega)
        rw [hnextCursor] at hpages
        refine ⟨pageOf principal limit rest :: pages, ?_, ?_⟩
        · rw [hcursor]
          dsimp only
          rw [hpages]
          rfl
        · constructor
          · rw [List.flatMap_cons, hreads.tasks]
            show (rest.take limit).map (entryOf principal) ++ _ = _
            rw [← List.map_append, List.take_append_drop]
          · intro page hmem
            rcases List.mem_cons.mp hmem with rfl | hmem
            · exact pageOf_size principal limit rest
            · exact hreads.sizes page hmem
          · intro page hmem text htext
            rcases List.mem_cons.mp hmem with rfl | hmem
            · exact hown text htext
            · exact hreads.cursors page hmem text htext
      · have hcursor : (pageOf principal limit rest).nextCursor = none := by
          unfold pageOf
          exact if_neg hlong
        refine ⟨[pageOf principal limit rest], ?_, ?_⟩
        · rw [hcursor]
        · constructor
          · rw [List.flatMap_singleton]
            show (rest.take limit).map (entryOf principal) = _
            rw [List.take_of_length_le (Nat.not_lt.mp hlong)]
          · intro page hmem
            rw [List.mem_singleton.mp hmem]
            exact pageOf_size principal limit rest
          · intro page hmem text htext
            rw [List.mem_singleton.mp hmem] at htext
            rw [hcursor] at htext
            cases htext

/-- **A client that follows the cursor from the start reads every open task once, in the order of the
    ids, in finitely many calls of at most `limit` tasks each, and every cursor is decoded to the last
    id of its page.** -/
theorem sync_reads_all (le : String → String → Bool) (h : TotalOrder le) (isalnum : Char → Bool)
    (halnum : ∀ c : Char, c.isAlphanum = true → isalnum c = true)
    (principal : ExecutionTokenClaims) (tables : Nat → Tables)
    (listed : Nat → Except McpError (List GatewayBinding)) (now : Nat → UtcDateTime) (limit : Nat)
    (hpositive : 1 ≤ limit) (hlimit : limit ≤ 50) (rows : List TaskRow)
    (hserves : ∀ call, Serves principal (tables call) (listed call) (now call) rows)
    (hids : (rows.map (·.task.taskId)).Nodup) (hnames : ∀ row ∈ rows, IsIdentifier row.task.taskId) :
    ∃ pages, follow (fun call cursor =>
        sync le isalnum (tables call) principal (listed call) cursor limit (now call))
          (rows.length + 1) 0 none = some (.ok pages) ∧
      pages.flatMap (·.tasks) = (inOrder le rows).map (entryOf principal) ∧
      (∀ page ∈ pages, page.tasks.length ≤ limit) ∧
      ∀ page ∈ pages, ∀ cursor ∈ page.nextCursor, ∃ last ∈ page.tasks.getLast?,
        decodeCursor isalnum cursor = .ok last.taskId := by
  have hlength : (inOrder le rows).length < rows.length + 1 := by
    rw [(perm_inOrder le rows).length_eq]
    exact Nat.lt_succ_self _
  obtain ⟨pages, hpages, hreads⟩ := follow_reads h halnum hpositive hlimit hserves hids hnames
    (rows.length + 1) 0 [] (inOrder le rows) rfl hlength
  exact ⟨pages, hpages, hreads.tasks, hreads.sizes, hreads.cursors⟩

/-- The order of texts by their characters. -/
theorem textOrder : TotalOrder fun a b => decide (a ≤ b) where
  total a b := by simpa using String.le_total a b
  trans a b c := by simpa using String.le_trans
  antisymm a b := by simpa using String.le_antisymm

/-- The checks of an identifier, one character at a time. -/
theorem isIdentifier_of_checks {id : String} (hgiven : id ≠ "") (hlength : id.length ≤ 256)
    (hfirst : id.toList.head?.all Char.isAlphanum = true)
    (hall : (id.toList.all fun c => c.isAlphanum || "._:-".toList.contains c) = true) :
    IsIdentifier id where
  given := hgiven
  length := hlength
  first := by
    intro c hc
    rw [Option.mem_def.mp hc] at hfirst
    exact hfirst
  chars := by
    intro c hc
    simpa using List.all_eq_true.mp hall c hc

namespace Example

def secondTask : TaskRow :=
  { heldTask with task := { heldTask.task with taskId := "task-2" } }

/-- Two tasks of the worker; the table has the later one first. -/
def heldTwo : Tables :=
  { held with tasks := [("task-2", secondTask), ("task-1", heldTask)] }

end Example

open Example

/-- The two tasks of the worker are read in pages of one task, in the order of their ids. -/
theorem sync_reads_all_two :
    ∃ pages, follow (fun _ cursor =>
        sync (fun a b => decide (a ≤ b)) Char.isAlphanum heldTwo worker unready cursor 1 10) 3 0 none =
          some (.ok pages) ∧
      pages.flatMap (·.tasks) = [entryOf worker heldTask, entryOf worker secondTask] ∧
      1 < pages.length ∧
      ∀ page ∈ pages, ∀ cursor ∈ page.nextCursor, ∃ last ∈ page.tasks.getLast?,
        decodeCursor Char.isAlphanum cursor = .ok last.taskId := by
  have hrows : (heldTwo.openTasks "binding-1" 1 10).Perm [heldTask, secondTask] := by
    rw [show heldTwo.openTasks "binding-1" 1 10 = [secondTask, heldTask] from rfl]
    exact List.Perm.swap _ _ _
  have hnames : ∀ row ∈ [heldTask, secondTask], IsIdentifier row.task.taskId := by
    intro row hrow
    simp only [List.mem_cons, List.not_mem_nil, or_false] at hrow
    rcases hrow with rfl | rfl
    · exact isIdentifier_of_checks (by decide) (by decide) (by decide) (by decide)
    · exact isIdentifier_of_checks (by decide) (by decide) (by decide) (by decide)
  obtain ⟨pages, hpages, htasks, hsizes, hcursors⟩ := sync_reads_all (fun a b => decide (a ≤ b))
      textOrder
    Char.isAlphanum (fun _ h => h) worker (fun _ => heldTwo) (fun _ => unready) (fun _ => 10) 1
    (by decide) (by decide) [heldTask, secondTask] (fun _ => ⟨rfl, ⟨_, rfl⟩, hrows⟩) (by decide) hnames
  have hsorted : inOrder (fun a b => decide (a ≤ b)) [heldTask, secondTask] = [heldTask, secondTask] :=
    List.mergeSort_of_pairwise (by decide)
  rw [hsorted] at htasks
  refine ⟨pages, hpages, htasks, ?_, hcursors⟩
  by_contra hfew
  have hcount := congrArg List.length htasks
  match pages, hfew with
  | [], _ => simp at hcount
  | [page], _ =>
      have hone := hsizes page List.mem_cons_self
      simp only [List.flatMap_singleton, List.map_cons, List.map_nil, List.length_cons,
        List.length_nil] at hcount
      omega
  | _ :: _ :: _, hfew => exact hfew (by simp)

end Arena402.Mcp
