import DocPull.Proofs.Url.Query
import DocPull.Published

/-!
# The addresses of published documents

A key goes into an address as the value of one parameter, escaped. So whatever bytes it holds, it
adds no parameter, does not reach the format, the host or the path, and can be read back.
-/
namespace DocPull.Published

/-- What is asked of the page that publishes documents. -/
def asked (key : Bytes) : Query.Params := [("key", key), ("output", "csv")]

/-- The page with a query, in its parts. -/
def page (query : Bytes) : Url where
  scheme := "https"
  rootless := []
  user := none
  host := "docs.google.com"
  path := "/doc"
  query := query
  bareQuery := query.isEmpty
  fragment := []
  hostless := false

/-- Parameters in order of their names stay as they are. -/
theorem sort_asked (key : Bytes) : Query.sort (asked key) = asked key := rfl

theorem parseStrict_asked (key : Bytes) :
    Query.parseStrict (Query.write (asked key)) = .ok (asked key) := by
  have hne : asked key ≠ [] := List.cons_ne_nil _ _
  have hlen : (asked key).length ≤ Query.maxPairs := by
    simp [asked, Query.maxPairs]
  rw [Query.parseStrict_write hne hlen, sort_asked]

theorem url_eq (key : Bytes) :
    url key = utf8 "https://docs.google.com/doc?" ++ Query.write (asked key) := by
  simp [url, base, asked, show utf8 "https://docs.google.com/doc?" =
    utf8 "https://docs.google.com/doc" ++ utf8 "?" from rfl]

/-- Neither a control character nor the sign of a fragment comes into an address. -/
theorem mem_url {key : Bytes} {b : UInt8} (h : b ∈ url key) :
    ¬b < 0x20 ∧ b ≠ 0x7F ∧ b ≠ byte '#' := by
  have hpage : ∀ b ∈ utf8 "https://docs.google.com/doc?",
      ¬b < 0x20 ∧ b ≠ 0x7F ∧ b ≠ byte '#' := Bytes.forall_mem (by decide)
  have hquery : ∀ b, (Url.isQueryByte b = true ∨ b = byte '=' ∨ b = byte '&') →
      ¬b < 0x20 ∧ b ≠ 0x7F ∧ b ≠ byte '#' :=
    Bytes.forall_byte (by decide +kernel)
  rw [url_eq, List.mem_append] at h
  rcases h with h | h
  · exact hpage b h
  · exact hquery b (Query.mem_write h)

theorem parse_url (key : Bytes) : Url.parse (url key) = .ok (page (Query.write (asked key))) := by
  have hfragment : Bytes.cut (byte '#') (url key) = none :=
    Bytes.cut_eq_none_iff.mpr fun hmem => (mem_url hmem).2.2 rfl
  have hcontrol : ((url key).any fun b => b < 0x20 || b == 0x7F) = false := by
    refine List.any_eq_false.mpr fun b hb => ?_
    obtain ⟨hlow, hdelete, -⟩ := mem_url hb
    simp [hlow, hdelete]
  have hplain : Url.readPlain (url key) = .ok (page (Query.write (asked key))) := by
    rw [Url.readPlain, hcontrol, url_eq]
    rfl
  rw [Url.parse, hfragment]
  simp only [Option.getD_none, hplain]
  rfl

/-- For every key, whatever bytes it holds. The address has the fixed scheme, host and path, no user
and no fragment, and its query reads back as two parameters: the key, unchanged, and the format. So
different keys have different addresses. -/
theorem url_carries_key (key : Bytes) :
    (∃ u, Url.parse (url key) = .ok u ∧
      u.scheme = utf8 "https" ∧ u.rootless = [] ∧ u.user = none ∧ u.host = utf8 "docs.google.com" ∧
      u.path = utf8 "/doc" ∧ u.fragment = [] ∧
      Query.parseStrict u.query = .ok [(utf8 "key", key), (utf8 "output", utf8 "csv")]) ∧
    byte '#' ∉ url key ∧
    ∀ other, url other = url key → other = key := by
  refine ⟨⟨_, parse_url key, rfl, rfl, rfl, rfl, rfl, rfl, parseStrict_asked key⟩, ?_, ?_⟩
  · intro hmem
    exact (mem_url hmem).2.2 rfl
  · intro other heq
    rw [url_eq, url_eq] at heq
    have hquery := congrArg Query.parseStrict (List.append_cancel_left heq)
    rw [parseStrict_asked, parseStrict_asked, Except.ok.injEq] at hquery
    simpa [asked] using hquery

end DocPull.Published
