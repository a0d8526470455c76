/-
EmbeddedGo.Server.MediaType.Table — endings of file names and their media types.

Each type stands in front of its endings, which are written without their dots.

  §1 data for programs
  §2 sounds and chemical structures
  §3 everything else
-/

namespace EmbeddedGo.MediaType

/-! ## §1 Data for programs -/

/-- Types of data for programs, first part. -/
def programs1 : String := "
  application/A2L a2l application/AML aml application/ATF atf application/ATFX atfx
  application/ATXML atxml application/CDFX+XML cdfx application/CEA cea application/DCD dcd
  application/DII dii application/DIT dit application/LXF lxf application/MF4 mf4 application/ODA
  oda application/ODX odx application/PDX pdx application/andrew-inset ez application/annodex anx
  application/atom+xml atom application/atomcat+xml atomcat application/atomdeleted+xml atomdeleted
  application/atomserv+xml atomsrv application/atomsvc+xml atomsvc application/atsc-dwd+xml dwd
  application/atsc-held+xml held application/atsc-rsat+xml rsat application/auth-policy+xml apxml
  application/automationml-amlx+zip amlx application/bacnet-xdd+zip xdd application/bbolin lin
  application/calendar+xml xcs application/cbor cbor application/cccex c3ex application/ccmp+xml
  ccmp application/ccxml+xml ccxml application/cdmi-capability cdmia application/cdmi-container
  cdmic application/cdmi-domain cdmid application/cdmi-object cdmio application/cdmi-queue cdmiq
  application/cellml+xml cellml application/clr 1clr application/clue_info+xml clue application/cms
  cmsc application/cpl+xml cpl application/csrattrs csrattrs application/cu-seeme cu
  application/cwl cwl application/dash+xml mpd application/dashdelta mpdd application/davmount+xml
  davmount application/dicom dcm application/dskpp+xml xmls application/dsptype tsp
  application/dssc+der dssc application/dssc+xml xdssc application/dvcs dvc application/efi efi
  application/emma+xml emma application/emotionml+xml emotionml application/epub+zip epub
  application/exi exi application/express exp application/fastinfoset finf application/fdf fdf
  application/fdt+xml fdt application/font-tdpfr pfr application/futuresplash spl
  application/geo+json geojson application/geopackage+sqlite3 gpkg application/gltf-buffer glbin
  glbuf application/gml+xml gml application/gzip gz application/hta hta application/hyperstudio stk
  application/inkml+xml ink inkml application/ipfix ipfix application/its+xml its
  application/java-archive jar application/java-serialized-object ser application/java-vm class
  application/jrd+json jrd application/json json application/json-patch+json json-patch
  application/ld+json jsonld application/lgr+xml lgr application/link-format wlnk
  application/lost+xml lostxml application/lostsync+xml lostsyncxml application/lpf+zip lpf
  application/m3g m3g application/mac-binhex40 hqx application/mads+xml mads
  application/manifest+json webmanifest application/marc mrc application/marcxml+xml mrcx
  application/mathematica ma mb application/mathml+xml mml application/mbox mbox
  application/metalink4+xml meta4 application/mets+xml mets application/mmt-aei+xml maei
  application/mmt-usd+xml musd application/mods+xml mods application/mp21 m21 mp21
  application/msaccess mdb application/msword doc wiz application/mxf mxf application/n-quads nq
  application/n-triples nt application/ocsp-request orq application/ocsp-response ors
  application/octet-stream bin deploy msp msu so application/oebps-package+xml opf application/ogg
  ogx application/onenote one onepkg onetmp onetoc2 application/oxps oxps application/p21 210 ifc
  p21 stpnc application/p2p-overlay+xml relo application/pdf pdf application/pem-certificate-chain
  pem application/pgp-encrypted pgp application/pgp-keys asc key application/pgp-signature sig
  application/pics-rules prf application/pkcs10 p10 application/pkcs12 p12 pfx
  application/pkcs7-mime p7c p7m p7z application/pkcs7-signature p7s application/pkcs8 p8
  application/pkcs8-encrypted p8e application/pkix-attr-cert ac application/pkix-cert cer
  application/pkix-crl crl application/pkix-pkipath pkipath application/pkixcmp pki
  application/postscript ai eps eps2 eps3 epsf epsi ps application/provenance+xml provx
  application/prs.cww cw cww application/prs.hpub+zip hpub application/prs.nprend rct rnd
  application/prs.rdf-xml-crypt rdf-crypt application/prs.xsf+xml xsf application/pskc+xml pskcxml
  application/rdf+xml rdf application/reginfo+xml rif application/relax-ng-compact-syntax rnc
  application/resource-lists+xml rl application/resource-lists-diff+xml rld application/rfc+xml
  rfcxml application/rls-services+xml rs application/route-apd+xml rapd
  application/route-s-tsid+xml sls application/route-usd+xml rusd application/rpki-ghostbusters gbr
  application/rpki-manifest mft application/rpki-roa roa application/rtf rtf application/sarif+json
  sarif application/sarif-external-properties+json sarif-external-properties application/scim+json
  scim application/scvp-cv-request scq application/scvp-cv-response scs application/scvp-vp-request
  spq application/scvp-vp-response spp application/sdp sdp application/senml+cbor senmlc
  application/senml+json senml application/senml+xml senmlx application/senml-etch+cbor senml-etchc
  application/senml-etch+json senml-etchj application/senml-exi senmle application/sensml+cbor
  sensmlc application/sensml+json sensml application/sensml+xml sensmlx application/sensml-exi
  sensmle application/sgml-open-catalog soc application/shf+xml shf application/sieve sieve siv
  application/simple-filter+xml cl application/smil+xml smi smil sml application/sparql-query rq
  application/sparql-results+xml srx application/sql sql application/srgs gram application/srgs+xml
  grxml application/sru+xml sru application/ssml+xml ssml application/stix+json stix
  application/swid+cbor coswid application/swid+xml swidtag application/tamp-apex-update tau
  application/tamp-apex-update-confirm auc application/tamp-community-update tcu
  application/tamp-community-update-confirm cuc application/tamp-error ter
  application/tamp-sequence-adjust tsa application/tamp-sequence-adjust-confirm sac
  application/tamp-update tur application/tamp-update-confirm tuc application/td+json jsontd
  application/tei+xml odd tei application/thraud+xml tfi application/timestamp-query tsq
  application/timestamp-reply tsr application/timestamped-data tsd application/tm+json jsontm
  application/trig trig application/ttml+xml ttml application/urc-grpsheet+xml gsheet
  application/urc-ressheet+xml rsheet application/urc-targetdesc+xml td
  application/urc-uisocketdesc+xml uis"

/-- Types of data for programs, second part. -/
def programs2 : String := "
  application/vnd.adobe.flash.movie swf application/vnd.apple.mpegurl m3u8 application/vnd.mif mif
  application/vnd.ms-excel xlb xls application/vnd.ms-fontobject eot application/vnd.ms-powerpoint
  ppa pps ppt pwz application/vnd.openxmlformats-officedocument.presentationml.presentation pptx
  application/vnd.openxmlformats-officedocument.spreadsheetml.sheet xlsx
  application/vnd.openxmlformats-officedocument.wordprocessingml.document docx
  application/voicexml+xml vxml application/voucher-cms+json vcj application/wasm wasm
  application/watcherinfo+xml wif application/widget wgt application/wsdl+xml wsdl
  application/wspolicy+xml wspolicy application/x-123 wk application/x-7z-compressed 7z
  application/x-abiword abw application/x-apple-diskimage dmg application/x-bcpio bcpio
  application/x-bittorrent torrent application/x-cdf cda cdf application/x-cdlink vcd
  application/x-comsol mph application/x-cpio cpio application/x-director dcr dir dxr
  application/x-doom wad application/x-dvi dvi application/x-font gsf pfa pfb
  application/x-font-pcf pcf application/x-freemind mm application/x-ganttproject gan
  application/x-gnumeric gnumeric application/x-go-sgf sgf application/x-graphing-calculator gcf
  application/x-gtar gtar application/x-gtar-compressed taz tgz application/x-hdf hdf
  application/x-hdf5 h5 application/x-hwp hwp application/x-ica ica application/x-info info
  application/x-internet-signup ins isp application/x-iphone iii application/x-iso9660-image iso
  application/x-java-jnlp-file jnlp application/x-jmol jmz application/x-killustrator kil
  application/x-latex latex application/x-lha lha application/x-lyx lyx application/x-lzh lzh
  application/x-lzx lzx application/x-maker book fb fbdoc fm frame frm maker application/x-ms-wmd
  wmd application/x-ms-wmz wmz application/x-msdos-program bat com dll exe application/x-msi msi
  application/x-netcdf nc application/x-ns-proxy-autoconfig pac application/x-nwc nwc
  application/x-object o application/x-oz-application oza application/x-pkcs7-certreqresp p7r
  application/x-python-code pyc pyo application/x-qgis qgs shp shx application/x-quicktimeplayer
  qtl application/x-rdp rdp application/x-redhat-package-manager rpm application/x-rss+xml rss
  application/x-ruby rb application/x-scilab sce sci application/x-scilab-xcos xcos
  application/x-shar shar application/x-silverlight scr application/x-stuffit sit sitx
  application/x-sv4cpio sv4cpio application/x-sv4crc sv4crc application/x-tar tar
  application/x-tex-gf gf application/x-tex-pk pk application/x-texinfo texi texinfo
  application/x-trash % bak old sik ~ application/x-troff-man man application/x-troff-me me
  application/x-troff-ms ms application/x-ustar ustar application/x-wais-source src
  application/x-wingz wz application/x-x509-ca-cert crt application/x-xfig fig
  application/x-xpinstall xpi application/x-xz xz application/xcap-att+xml xav
  application/xcap-caps+xml xca application/xcap-diff+xml xdf application/xcap-el+xml xel
  application/xcap-error+xml xer application/xcap-ns+xml xns application/xfdf xfdf
  application/xhtml+xml xht xhtm xhtml application/xliff+xml xlf application/xml xml xpdl
  application/xml-dtd dtd mod application/xml-external-parsed-entity ent application/xop+xml xop
  application/xslt+xml xsl xslt application/xspf+xml xspf application/xv+xml mxml xhvml xvm xvml
  application/yang yang application/yin+xml yin application/zip zip application/zstd zst"

/-! ## §2 Sounds and chemical structures -/

/-- Types of sounds and of chemical structures. -/
def sounds : String := "
  audio/32kadpcm 726 audio/3gpp 3gp 3gpp audio/3gpp2 3g2 3gpp2 audio/AMR amr audio/AMR-WB awb
  audio/ATRAC-ADVANCED-LOSSLESS aal audio/ATRAC-X atx audio/ATRAC3 aa3 at3 omg audio/EVRC evc
  audio/EVRC-QCP qcp audio/EVRCB evb audio/EVRCNW enw audio/EVRCWB evw audio/L16 l16 audio/SMV smv
  audio/aac aac adts ass audio/ac3 ac3 audio/annodex axa audio/asc acn audio/basic au snd
  audio/csound csd orc sco audio/dls dls audio/flac flac audio/iLBC lbc audio/mhas mhas
  audio/mobile-xmf mxmf audio/mp4 m4a audio/mpeg mp1 mp2 mp3 mpega mpga audio/mpegurl m3u audio/ogg
  oga ogg opus spx audio/prs.sid psid sid audio/sofa sofa audio/sp-midi mid audio/usac loas xhe
  audio/x-aiff aif aifc aiff audio/x-ms-wax wax audio/x-ms-wma wma audio/x-pn-realaudio ra ram rm
  audio/x-scpls pls audio/x-sd2 sd2 audio/x-wav wav chemical/x-alchemy alc chemical/x-cache cac
  cache chemical/x-cache-csf csf chemical/x-cactvs-binary cascii cbin ctab chemical/x-cdx cdx
  chemical/x-chem3d c3d chemical/x-chemdraw chm chemical/x-cif cif chemical/x-cmdf cmdf
  chemical/x-cml cml chemical/x-compass cpa chemical/x-crossfire bsd chemical/x-csml csm csml
  chemical/x-ctx ctx chemical/x-cxf cef cxf chemical/x-embl-dl-nucleotide emb embl
  chemical/x-galactic-spc spc chemical/x-gamess-input gam gamin inp chemical/x-gaussian-checkpoint
  fch fchk chemical/x-gaussian-cube cub chemical/x-gaussian-input gau gjc gjf
  chemical/x-gaussian-log gal chemical/x-gcg8-sequence gcg chemical/x-genbank gen chemical/x-hin
  hin chemical/x-isostar ist istr chemical/x-jcamp-dx dx jdx chemical/x-kinemage kin
  chemical/x-macmolecule mcm chemical/x-macromodel-input mmod chemical/x-mdl-molfile mol
  chemical/x-mdl-rdfile rd chemical/x-mdl-rxnfile rxn chemical/x-mdl-sdfile sd sdf
  chemical/x-mdl-tgf tgf chemical/x-mmcif mcif chemical/x-molconn-Z b chemical/x-mopac-graph gpt
  chemical/x-mopac-input mop mopcrt mpc zmt chemical/x-mopac-out moo chemical/x-mopac-vib mvb
  chemical/x-ncbi-asn1-ascii prt chemical/x-ncbi-asn1-binary aso val chemical/x-ncbi-asn1-spec asn
  chemical/x-pdb pdb chemical/x-rosdal ros chemical/x-swissprot sw chemical/x-vamas-iso14976 vms
  chemical/x-vmd vmd chemical/x-xtel xtel chemical/x-xyz xyz"

/-! ## §3 Everything else -/

/-- Types of fonts, pictures, messages, models, texts, films and the rest. -/
def others : String := "
  font/collection ttc font/otf otf font/ttf ttf font/woff woff font/woff2 woff2 image/aces exr
  image/apng apng image/avci avci image/avcs avcs image/avif avif hif image/bmp bmp image/cgm cgm
  image/dicom-rle drle image/dpx dpx image/emf emf image/fits fit fits fts image/gif gif image/heic
  heic image/heic-sequence heics image/heif heif image/heif-sequence heifs image/hej2k hej2
  image/hsj2 hsj2 image/ief ief image/jls jls image/jp2 jp2 jpg2 image/jpeg jfif jpe jpeg jpg
  image/jph jph image/jphc jhc jphc image/jpm jpgm jpm image/jpx jpf jpx image/jxl jxl image/jxr
  jxr image/jxrA jxra image/jxrS jxrs image/jxs jxs image/jxsc jxsc image/jxsi jxsi image/jxss jxss
  image/ktx ktx image/ktx2 ktx2 image/png png image/prs.btif btf btif image/prs.pti pti
  image/svg+xml svg svgz image/tiff tif tiff image/tiff-fx tfx image/vnd.microsoft.icon ico
  image/webp webp image/wmf wmf image/x-canon-cr2 cr2 image/x-canon-crw crw image/x-cmu-raster ras
  image/x-coreldraw cdr image/x-coreldrawpattern pat image/x-coreldrawtemplate cdt
  image/x-corelphotopaint cpt image/x-epson-erf erf image/x-jng jng image/x-nikon-nef nef
  image/x-olympus-orf orf image/x-portable-anymap pnm image/x-portable-bitmap pbm
  image/x-portable-graymap pgm image/x-portable-pixmap ppm image/x-rgb rgb image/x-xbitmap xbm
  image/x-xcf xcf image/x-xpixmap xpm image/x-xwindowdump xwd message/global u8msg
  message/global-delivery-status u8dsn message/global-disposition-notification u8mdn
  message/global-headers u8hdr message/rfc822 art eml mail mht mhtml nws model/JT jt
  model/gltf+json gltf model/gltf-binary glb model/iges iges igs model/mesh mesh msh silo model/mtl
  mtl model/obj obj model/prc prc model/step step stp model/step+xml stpx model/step+zip stpz
  model/step-xml+zip stpxz model/stl stl model/u3d u3d model/vrml vrm vrml wrl
  model/x3d+fastinfoset x3db model/x3d+xml x3d x3dz model/x3d-vrml x3dv x3dvz
  multipart/voice-message vpm text/SGML sgm sgml text/cache-manifest appcache manifest
  text/calendar ics ifb text/css css text/csv csv text/csv-schema csvs text/dns soa zone text/gff3
  gff3 text/html htm html shtml text/javascript es js mjs text/jcr-cnd cnd text/markdown markdown
  md text/mizar miz text/n3 n3 text/plain brf ksh pot srt text txt text/provenance-notation provn
  text/prs.fallenstein.rst rst text/prs.lines.tag dsc tag text/richtext rtx text/shaclc shaclc shc
  text/shex shex text/spdx spdx text/tab-separated-values tsv text/texmacs tm text/troff roff t tr
  text/turtle ttl text/uri-list uri uris text/vcard vcard vcf text/vnd.a a text/vnd.graphviz dot
  text/vtt vtt text/wgsl wgsl text/x-bibtex bib text/x-boo boo text/x-c++hdr h++ hh hpp hxx
  text/x-c++src c++ cc cpp cxx text/x-chdr h text/x-component htc text/x-csh csh text/x-csrc c
  text/x-diff diff patch text/x-dsrc d text/x-haskell hs text/x-java java text/x-lilypond ly
  text/x-literate-haskell lhs text/x-moc moc text/x-pascal p pas text/x-pcs-gcd gcd text/x-perl pl
  pm text/x-python py text/x-scala scala text/x-setext etx text/x-sfv sfv text/x-sh sh text/x-tcl
  tcl tk text/x-tex cls ltx sty tex text/x-vcalendar vcs video/annodex axv video/dv dif dv
  video/fli fli video/gl gl video/iso.segment m4s video/mj2 mj2 mjp2 video/mp4 m4v mp4 mpg4
  video/mpeg m1v m2v mpa mpe mpeg mpg video/ogg ogv video/quicktime mov qt video/webm webm
  video/x-flv flv video/x-la-asf lsf lsx video/x-matroska mkv mpv video/x-mng mng video/x-ms-wm wm
  video/x-ms-wmv wmv video/x-ms-wmx wmx video/x-ms-wvx wvx video/x-msvideo avi video/x-sgi-movie
  movie"

end EmbeddedGo.MediaType
