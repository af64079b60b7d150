/-!
# The driver script

The script that runs webpack. It is data here: the library hands it to `node` as it stands. The
script reads the bundle request from an environment variable, bundles, and prints a report as its
last line of output.
-/

namespace SnippetForge.Webpack

/-- The environment variable that carries the bundle request. -/
def requestVariable : String := "CODEBLOCK_BUNDLE_REQUEST"

/-- The lines of the driver script. -/
def driverLines : List String :=
  [
    "// Bundles one staged code block with the webpack API.",
    "//",
    "// Reads the bundle request from CODEBLOCK_BUNDLE_REQUEST and prints a",
    "// one-line JSON report (\x7b errors, warnings \x7d) on completion. Exits with",
    "// status 2 when webpack itself fails to run.",
    "const path = require('path');",
    "",
    "const INVOCATION_FAILED = 2;",
    "",
    "let webpack;",
    "try \x7b",
    "  webpack = require('webpack');",
    "\x7d catch (err) \x7b",
    "  process.stderr.write(`cannot load webpack: $\x7berr.message\x7d\\n`);",
    "  process.exit(INVOCATION_FAILED);",
    "\x7d",
    "",
    "const req = JSON.parse(process.env.CODEBLOCK_BUNDLE_REQUEST);",
    "",
    "const config = \x7b",
    "  mode: 'none',",
    "  entry: req.entry,",
    "  experiments: \x7b topLevelAwait: true \x7d,",
    "  optimization: \x7b",
    "    removeAvailableModules: false,",
    "    minimize: req.minimize,",
    "    minimizer: [],",
    "    removeEmptyChunks: false,",
    "    splitChunks: false,",
    "    usedExports: false,",
    "    concatenateModules: false,",
    "  \x7d,",
    "  module: \x7b",
    "    rules: [",
    "      \x7b",
    "        test: new RegExp(req.transpile.test, 'u'),",
    "        use: [",
    "          \x7b",
    "            loader: req.transpile.loader,",
    "            options: \x7b configFile: path.resolve(req.transpile.configFile) \x7d,",
    "          \x7d,",
    "        ],",
    "        exclude: new RegExp(req.transpile.exclude, 'u'),",
    "      \x7d,",
    "    ],",
    "  \x7d,",
    "  resolve: \x7b extensions: req.resolveExtensions, alias: \x7b\x7d \x7d,",
    "  output: \x7b path: req.outputDir, filename: req.outputFile \x7d,",
    "\x7d;",
    "",
    "webpack(config, (err, stats) => \x7b",
    "  if (err) \x7b",
    "    process.stderr.write(`$\x7berr.stack || err\x7d\\n`);",
    "    process.exit(INVOCATION_FAILED);",
    "  \x7d",
    "",
    "  const info = stats.toJson(\x7b all: false, errors: true, warnings: true \x7d);",
    "  const messages = (list) => (list || []).map((d) => (typeof d === 'string' ? d : d.message));",
    "  process.stdout.write(",
    "    `$\x7bJSON.stringify(\x7b errors: messages(info.errors), warnings: messages(info.warnings) \x7d)\x7d\\n`,",
    "  );",
    "\x7d);"]

/-- The driver script. -/
def driverScript : String :=
  String.join (driverLines.map (· ++ "\n"))

end SnippetForge.Webpack
