/- The configuration file that users begin with. It says what each setting means and holds the
   standard values, with weights for a few properties. -/
namespace BondQuery.Config

def exampleLines : List String := [
  "# bond-compiler configuration",
  "#",
  "# Copy to ~/.config/bond-compiler/config.toml or pass with --config.",
  "",
  "[indexes]",
  "# Index holding harvested records",
  "data_folder = \"data-folder-index\"",
  "# Index holding per-source folder metadata",
  "meta_folder = \"meta-folder-index\"",
  "folder_registry = \"folder-registry-index\"",
  "views = \"views-index\"",
  "# Every index a folder may span; folder and view lookups union over these",
  "known = [",
  "    \"data-folder-index\",",
  "    \"meta-folder-index\",",
  "    \"folder-registry-index\",",
  "    \"views-index\",",
  "    \"users-index\",",
  "    \"augmenters-index\",",
  "    \"cache-index\",",
  "    \"configuration-index\",",
  "]",
  "",
  "[ranking]",
  "# Boost weight per property (>= 1; unlisted properties weigh 1).",
  "# Quality dimensions boost level i by weight * i.",
  "weights = \x7b title = 3, keyword = 2, isGDC = 4, metadataQuality = 1, essentialVarsQuality = 1, accessQuality = 1 \x7d",
  "",
  "[data_core]",
  "# Sources selected for the data core",
  "source_ids = []",
  "",
  "[data_folders]",
  "# Local source id = data folder; unlisted sources are distributed",
  "# my-source = \"data-A\"",
  "",
  "[query]",
  "# Keep soft-deleted records visible",
  "include_deleted = false",
  "# Apply include_deleted to count queries too (by default counts always",
  "# exclude deleted records)",
  "count_honors_deleted_flag = false",
  "",
  "[display]",
  "colored_output = true",
  ""]

def exampleText : String :=
  "\n".intercalate exampleLines

end BondQuery.Config
