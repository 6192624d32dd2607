/-!
Names of letters, marks, digits and signs of scripts.
-/
namespace ThreatScan.Text

/-- The names from U+0020 to U+1FFF, from U+3000 to U+FFFF and from U+10000 to U+1CFFF. -/
def scriptNames : String :=
  "FIA<SMd`]mA%89?%IB:n;vgKN/x+2],TfAN7RNr02HO=Wp[c@'Xqc6Kf4JepPhl9'8StT8b4vs.jAZ5mX;0XVY,2UoCNG=BV[/cx5D#,m7xuVxj>l;PfC
 Mh?ahkN$S(?;ooTd)W+D4sipOFtUT]'[w1Ii.w/@WdUfMGdDlpXYa[@Wfj*:7G7XYmh)na/Pfjg@.qf,p$Qg`NS5Pt&1mEXLf7Y<W`;3FUrP@1l6V3*+f
 E$2NW.8RpnuCn/PLJJ29_N[SnH7YD(f(n9WvakQS/]r.-@Kep;ki*K.s&v[N(+n0V'N-<W/qB4vQcMFZIQ4ek*hI#tbsQQFk6-hBBHaujm1Fq9iJ4/5W4
 7BjGe'(7GW<N/SJ&jwQiAqhobg$BEpssvdqBiWW@XR)@;gUNF:i@7a91iu1J?JiA2Ie&da7m.9j(XVbr&itBO(E3q%plE,#avH%93u/4Wnc_xPAn9Otdk
 ,+1<`K1J#n)@XG/%2Mw7c]1iVs?Dqk:K=dcF'-fF&Fks2V1jBD,T=7:bhe;]'_JAV#,N92Sc;fSdR:qZ@2F)Wlp3F+@bLx$lbfIoSNUbU%>sS::JSumdC
 0a-T;8Yd[CfP<JOf_tR6(eI]o6rEN0F,g/pKt`.v_Ivhd9mQDZji>GZr8PJ'4PVR%:6)-'crTf?kTPa$72rvqU/sL;KY'?nMS-922EndY.tL3,R@BR-aD
 gA7f6v;D-=ie'D8[)QO;/6pJQP77E3uYlJO,t#nj2(C@nJbII>=-vI4/YMh&ajFv'U-xVN5pv=dtLpYms#JE6bLmv9u5`729egj@u#3]^^Ue82MR)GB7Y
 ^67`[0cs;wc:ShV4`qE.g8hSS601$o6;NIgQSI@t73)/Nq:TYF3n;O7'3Ui'(mI_G.6X$Y]Z(U3`>l`4^r^(5brsW1H&Kl;2f>[&QZMftkhY_]XaxK@TB
 YRD8VP/x0otVxu7E3GoI0j276=Hlk=/cWU5#ds&;V2MUdLNK.)`bg*c7T#:Z,b,NmYo00g^YId`(da6T4k>hg[U)%:cNurWQfOle-j^BI6Ofj_m2P&2ag
 nkghs_EUU=wKkJCEo_e+4*lPtu'2bhP4T.KAhgkl=nrwexfZ4H.K`x-Qx6-,gdC^i7:hvAgmSaoBwT/(Y,tV=g$'10n=,TK<cS'kCA/R9tv$C*6^cCc@o
 X-u/f9TJXrquSM>=8EQ4Tf?ffA02I,A`7ccegYw#TFOv?hftSOVTP>u*f>skhLWGXf_F8)G8:CHm>c+egs$k=+n<GX^BHq$M)Q#d<.$$0>UJNc6emNB2x
 Gg42'<19;b1u`AYDT6,BI=D5Zhn-WOT26FWRT5IP6?.<iZ6w(RcqG'R-AYXIBt(F@*x?ekrOD8gApuKlwhEJgVIH6qq=$6ED:>R&OqZTuGDUG<NwtZ4(8
 6bCat8Nr&;Z2dMl+m@`Rp6_P.:aptYM%R_Wc2lV/VVOZG.Ym<d:#m,LSAuCNs^e<uwQRaP+.ZcaFaHAP@/g8SNI4vbXe#XK$9T-2x#gb=R.aoEdFx.C]'
 >b=wDbCpRoAc[_E%S3<n2k?&@<Raafg%PEghJ/&n1YqZ_l4$F4u>,?0bD5xT2(=>o$i'@ZwoB]bdrf1nE`YhKmTZM@]Vs;Rdq>=Xa;K:_R=AkO*aZU`qq
 %K.h`&Y:Mec?`k)Mc.h]eo=H.i5Q-cZitcZD%`ZW]$;TTPwlhni6cP'dKA$;V-[EC@OQ,E0UW$q=s9DS*LTA6$kgtQX'8c%qH]5iXT7A5JVfAXP2bY_mp
 pi?8E6)QkG4*_w`Ioobe`b&@`loq3WA8A2K6rkEZiQO&@g(xud_Y)QCd/U]YJ1@qD*,ACNNZn.kli4X9E*8*dm(r*VQ*kkM]YQ23Ee%rGq/j7e'$*E/d0
 _F'(?C5TA5vJIr3t%qVC7@hG4%tX&*r4bLaYO.XsmM;JkjhKAg/:Hmc0<S=wH_>d)ql5Kob8n=X&nK04#Hd4$?SZDG@Z3AHE%d.ThWDiEg#qRHb8p4s93
 $G;ZA1063J_.f%'+:*S?mM1uX-jT]XiYP=;&N>*h-e&(3RZbPVej,,,KeQA9GoRp_)h1*32us&7>ZtWxmnv(n._<TK*sE^c&D#7,Jqv08Nf*S'6Y[JiSO
 KsZL77nGsZ@(EHdbhg/_4v5_+vr-kE3`'<>)gJ5:<PkCtYnF2KB<6`I(tC]Nd2#la)gfQlRrO*gw:afOFPN_U]v[e_8be>AD,;2?nR<Hh8I5hF>gpn1-)
 uYMVIVO#j2M=i7[dA&_wl6suc]&;h&]w2=X>(8xS&FkFx2J,rF_h[64?XIN1ZiTG<CZS#g$HR2B#@k@D;EhV9g(s0JYE4g4&YS$^dX_wtpef26*[EABDS
 ZCx8UmH%G$5Kt_LrXTU=3JBGCctgL]XwIvuT0_Uo#hvoiUL2qpX2QNVWGK_a[gZEt2k%?vuY0u;AJh-ubQs6FKVj0gqehxp[<+&PNbH87L[+IYWuCnrrk
 ei-QjWFq`((;L9m`hmRP#OLk_^a3SWm&FGVQYV7HS,@oGjD#rD@7wf_mgKtN-hgv.Ok#Dn+r[W6FhHC,$YYOKSDEB8n/S3V)26@t`,mghqn*EL`JhGqek
 2Xq$[kJ>^FgPCF>lGC2MU:gh5ANDH[b'8k]-@dWN[ft18%XJY2n/:NfO-#Ca-RdjkG7+0(Z@bNGbn,L9fWF9bIjhb.9c36e7#F2YW_<x@QhTb?E(P:;lf
 qfI99s'&XK'.Vo,KhIK`=^+=bKgltCa^uf0AEO>EZL(G+Y]Y/;?V.BK%&-Zg`t_)_11G7B0YU$+%?PqqxZL$o;w.%a/Z>,0V(CYuMlwYcj'WV]Jp]+9I'
 T,-cV(@8MS:Rp[[vo$qT3auD7fhqRMM#6&3)SVKQY%S](Zhci0[2g,5Hxu:WKK:FVNnEkNiB[=nG%JNeIM+GTdO2u&)5V;L4w]#&CsQus/xhA#03:2Le(
 Aj9hP.SW_sgT-.RUQg#TVi9s@H9$fp$bpVUYFX>f5SLi+L7W0hQ`Rf-H]pcegchN=0rWG.JFkD??9O5rQcHb7*rhxf9f]b`2hm1Sp9;[t^HTS%;qHQr]H
 9/Lq15`q,%f0NVu03A=T&w'UL?Z7*EocSQK8p;1XQ3@%T$Fr0H.Y-0D-8n#(MU?K81]xCS]%*RbTp[Qo5qcCRfK(<(2EOr`0m&0Pn/5_O]LFcfM%&=(hG
 x'a;WWf8qMGGL:Ms/Lv?Ohw1Q(:[`eE,t*%VE+0kp+ojs;?f]%wurGC,$R)Ysod7nR5/x._hakn;]dl24s_4@6`i[x5i8+;u[RZEVfSC9sch^hQcGZwb%
 Ag'=Q-.:J#i3fk)xJ3(8*$N11V4_FH%[2HkmFOptjZ+;U,-&g#i`-lO6e]wYRKB*mMn;r^(nfWTq&%Vp`L7`:P7X#9f4wv=ufo2Ipen@O[n<d<G`mOl72
 J'GL26=5>gpNu&]873QP@xTF,-::VVi=s1*]th;)@e&=v:Ze[dfu),d=cJl?in2i@Cq7D+D<*&@[f1^TCl%x*pJnc-l*HX]ZVOFJkA`@hg5W]fEE`S1L*
 '$6f%93Ic&%u&MJC^vL+/ksppFQW$#TaR&QNQaa3f)U;U^OS82%ij@Ku:wiIqR.Rs*u$X<>`&voord7C*U48=-'s:gP+m.i6x'0^Z[$2%:T[ZOCs3jE?^
 O0h3.E0pWMD2<i5@uFPr/Lbm3j3EoI0:P)h4Q'0Pkdu===G`DnWr,fJZ[4Wl`:/SRg&(=`+Eig2R#Y=F.sHVf$crarQU7h@35&HInMJZ]NwU;bA7j@8#9
 j'*xO/8`S1F6XvH'K(>+<aVvad$Oh)R;O(Zs6S^o8U#@V=?UwK]P75_I/kfc$R`rslBM-xLRl;IQ*/x2U?RREoCAC<0M:c@r;_<]HN*/kv*n=%FNjmR'h
 ^27m8V<-LeYu@KB&v)2***n/E_@SE+t@MW6AIfQD*TnotS$dkuemJqfB1Nqq>u2#%jg/W$,WM^%W6R6UEZ-KjX1G6UE.NBk=vr+N/+?^olxleo#Sa$^ui
 eQ+gjXm*npt1RaveNpE@^RV:cm,T&VZL`(@<DYOIi`CKsulN-g^18.fvecN/=YYWpQtYRQWL1:t?#OElmqEHc>x/<X]-hoAm/=vC+B(R?@1c=?bNh,0cV
 WtNZJ:*>V01%(eA)rjlx_*as2d72N/Q3<6,^R0*^.4O#>+cjRi;KS*`belvH5e`<gnc$e2n_(;;+)&q95aDPe9';^?W@Xt1G+6=t[(o-t^@lS#s'rxIcN
 TQ'70*ZTNJ>U3U/Re+ZObWm:3`E^oomEstl&6Y*-exY$L]U^'=;)SF?P8>jLQLh=coB)5;5M?@3:5sEW]]2`I@587XECs'=rcZ(pL4nhobd(n>(]GNVbE
 ?Gb*1GVaq6;tk@#`3A#PY2%#GE$fdbqa.wcEKd#4rGtw)2_G_kkp@;]Q)FQ<@e&UM=$:B#c_Rrcf81T0vmWk0B-q*0>jU.e/:=t6Nlvm.mN_V3&4V#90b
 /gBS*$n>-`gGk]t..u*c*9A.`T,B/9jc.ir*kA)Fab?^H@/>InQUhaLsnCs<P]s?O9XiW[M5s04MU/0A[5lm]ndGOiG6ttLT/%iv:CGM7WwEvRE;c)63X
 ws#d-YoOE@5XT1gStqbl7*NM,FeOW;L8iHVnbHGcNv?@mS58<ni+Z.I@ascgJ`HB4c+MKdsD<*s#_U6NK;@xG4OWAP]Zc,m(fhu#Qu*JOv;0&e>fbRGrA
 @]*LjVHj?2P_c[@j_8E2ju;11N3.0MYJDGsFAOQ>F>FY&8E%2>(9iNTAOYWqkuDRKT*dkB(TJl2N$`pjAN1`eo/JgnXuB5F'1<;]ZBhs1[tYvfs0DMDWI
 s<]3qrpLKl,q[du1*n:G]J1^iV^#>IP)'kO4T1t&c#vD6J33<brE8WjXRrq8V55ZXj:#B%u-_ZOmYY(Y<qF%Ns8<@OT%kQI,f?uuve4)08ogc#@qlZ-EP
 CW2Ut0%KOhKG:p_SMF/E2l.?02T2>ZI'-TA,$-39]iJaZ5+t;SO):`3IbS]HidsjtEg>X?dP(UnmWe=]V<HU,L+Ix%DUvTa`40J-%aj3w6[(NWgNu+/I:
 F[F<8Md?='>$3c0qbQ`+E@:O'MqQ^;#R9Lssb.CP(w,$M=I7WAoVI.]PF-8/X)c1>aI=6D1km8ismoYTTF2M8D>Z:4lv5P?GeiSgj=T9_fUbCBSL'@6rP
 sP&Uok.>:D=LN[[sfKqS?5]UkJ)oQT4BsDWnNjHBM?J;w<hf_kgc*9xOBJV6,&Ec8.uq:(RemWiD(Ne_1aHC&e/6PRch+Y/bYpq_WOX$Uslpx#`<<P2Rm
 %N'7ki+l1eXOT1j6@jab<QslULMc,je$0/ZqHZ*nD'Y3+E:XlAT@Y,Y%KNmGCNiuoTt`3+o8[_VH5;)ZM`eFwYQLM<-Y(,T`;_p+Y@_g,?CgFbh3w;ZYC
 5frf[gHx3@Y]j3(V@/-Sa1`/vFSxO8aJc+P;RkoRcfocTZD:TV$Xk178vKQUtA<;McRtO3K&eak<N3%Lhq13ZO1g=([&CI;g>q(`^7sQp7Yxkx]gK=Dl7
 QbGN+aWF%eQ#9^GEPX;:&->Dw75XuA(J)@?lMk^[L[O#jl1T*60]lwSn8q.X#oRW7j83G(^JOMmAsfJC);cY_^FY9Xw[P[E12S)&ps&Za`eS>LC4M#rd0
 G7VK-DgH[ASARlSmr$Z`fJkwP$R9o=.P>-JqjA^chQ;[aiaBm_jXtf+$0'Z?35/XT7__I%E7w+fRE&po9@](eQ@Rj:,+tV$SI:5Ac^jfhmFo]Kdc$:=Rm
 *2O+n<]L9bC$.Toc[W?O@g9:o4O/0POtLoIYq5L-iii.[k>lE@pjTaMj$h4Q$uU77_`&[?M]PLcla@.pvNt3RT55]:C*s)a%O3Tl,/(pkRW:7SRcNHA]m
 U.rr<sSg3BG5In/[a5dI$8K'4n$1o;]D*:,6oZxd9h6l3%PR-K2u&mGifd%GiEQvNF0AKdM/5e>^Am3WWhMjiC(0B]t>2Bl0S?,l;APr;qjRN9XB=4'>b
 H#]r@Jn%E+wc.WQ5D`FS7Y2$q:LeEHO0qT^mlZFI[OS3f;,ETmZ9F-3QOrWUj,[n1Y8;^dhV+Rcdss=i-?/1cRvM<&J^;qH6uME<5SdTloZe4G#0jivmg
 UA[%ZIYi@-TXTu?F,6+gBpE]H9q9D>+>:uI7WCK;D@Jdf8=G?MA,e*;v0grQ$W]C]EJUf1g72XBAQq`e%AbdT4'i49;#xF=ouB)XceRS]Y-hKg4uTAXPZ
 Lem5n^093EnC7.41FS.)(-i,&YG1^891u$b+VF7_7%^>?&D..K@1iO6*WY0h@[04h<iM(GF<b8m,DUh=IlwUh1G>g8O$7^.<w'E>hWVoDT@6sYwElEl;E
 as)@Gp/a%L0efi>7KVYSA567<Tp5rBq8e)_KAq[7&-TIkm-jBQUCOm_Ron&R@We8?tAE>3U.`iP8K(;fWV,S$OaS%pJ=nT.3j#^$1[VQ(;VXC+/;cQ0S+
 sa+MxX8RIDcJAAfJOB0aI4.Z5.;2Gh]/v[F4IXNG4bECj:<upFeb=$C?AVPG6L$voV%wiW`RSQ(I$HDN7e>Y:6fbG_38GGFX]@JAYk&Vb.0D3J7gu#rbZ
 lh'6>iL&PHZei1nq@da,MPftAPbHEXuOgj-Jxou?W[uRUpVI/V*s:I@N3*&_4q-513Jq>`Ik9?`lt)6#'v8Pk#E<Cld4?mMimb8;h[L#WZR<8qHJDu2]5
 JBhv5U>:`@Vb7<FwTsK/trJ0,EYrw+<HcH'R%a9=B9ev8VIFQ[sd2WhnoxaEn;ZsR8ovAF#)`=*]RgsW$r=')5'XGO5d=Q>VU;Wc$s3TW(/]8lc>Ho[SN
 3rJ,4qOa*Cx&Wu#S/vd4O2>R$&rP8g>&MX2Y[xK.>@2$1v`5*AR`J:+Ya#-.Ix*rF.PQHQOl8Pn_S3@-0f7kCP8C;2w)h`l*/t2=0s7sSr)fdAZWF/Q#W
 3e3/BMZ$0%#.Y75ghc^NZKUwtFGeUr`f(RfgiAA()Y_KJ/:-rM[k2[G)/S=&g:K5d0Br*,?sbqqOH3xZHP`52l%lvsaG/GSW@QBHGB,$Wk>E++<EeBB&i
 2eYaYH(#u@@#&GdTVct;l[#4HLA/*@U54keuH=@fgQvTW7k+atLw1t4ZKd.(NYgF?v2@Srgjs#1E6'$queb%n`1T'_O6#^iB]g-.XX2i>fKM0t/QVgMEH
 eh$J_VNldA`3%ZDR4BQooqu17p:+7:b+?M^%(nr?=H*:;(d<01REJCoK,E@ah.(M4r'4@)q^OL$qg9OUI8.CMn+_C;3kctw0/<k)5O6ust-@2Pl]c3n2d
 B(K+/*;^a`Wv2H[6=uA=HV3Ttr-6VosRle@bunjN0NJZIj?Dw@n@o@n,K^;nbaCj+A,5mpijw@$]@YAZ*8uH2-.B7JKAc3rHiw_Yha)5bI*Fg)+H:?I_V
 J%qF:rlg64Zo7#Wt)aJkD8m<6E>KM#+4s-[8'vZ?4d;^U/[&BCd(@7Qph>1#:E)ANsGQ/A4gldg45HA9F0mVtr%Zw9C+NJ<K(O@8v@J>])ttdOp^Yl=TM
 G,d_glB97hqQ*H=PpmSTVh?wJ4rqeB(2Xgv0SC9`qw=)%n8NTI(r[g?d*3bIBJ/IIZI/mw?D9OoduJs>W<r@Ina>A<TC@x8oJqu2eR#^_,T]ZxvYcmIdq
 K+KOMWZfo0_@NuiGlP<'<#eBbb3hRIMlwxJFTZp0ed'b1$L0gCOUEP-ttUVWhw15ZS1D$l5ffLlMgj3Y.iuX>j4mL7S@_aWIG^Q6[UJ/e,*Y75*8DM^R_
 vo>+K@g5:)lux?xp-Rm*6>U*=C)1QI*,rXEw&w3%?wFss%g'/J?@+b7ObAe94A+o`+hlOP]lrI=q7e.Y%s;@&5Tr(L@evoCi?_b6Dn7RX*u14HRiHWI(%
 muB/V4#-#%U#oJpU,Gvs$jmrI/adM3pA)-dsge(fF=_7XIgP9@Z8n2JZiU+W(R1h4)##a#KKa>Wg4M:=<C2.ZkM5rRA7T3`j;hjX/WXM$p>UwPxkR0_pM
 53n>#:`#r5v74*lthT^rc.HWaU]o/W:df@I7w8%En-=;,,>YD=$/HA3g.P#N5N/MqHdaW*)%j]a(]JPMC&&M(XjahkD+.M.H<]G9&beMG[/X?G6j9J=1m
 ]c,-fQWkVX=Mn[)jri%f0AY`o#+*>MFH<209,?'24'5m3s3sZ'w]*vE=&D8,r2*sVE?mk.Hdo&xkW>e]PLngUGr]5gIV*S5KObL?)H=@qCCQQ_-vU7>kI
 Uk-hh7?4jq>L&efA_KR/E3Herf`><V(#@(Hj_FpKe>37cR6Fv,0YZ10=mOqONlWbWb50wnE8;KBmv]^QbJiss[lweTfgu];dY[]$2Rg-897oSRq^chSOe
 p]+S%EuC1,1l1q`h]??##Q&BX%Mf%V<3YC)B25,sj6F1/+Jmu]6/Y_m;Y;fuCjPIKnJ'?Cl-]&llK0,t-[?0,,2C;#8[.)pMq+)x.0km1PReK&e?O..t`
 43kVO`uS9)apU4Tx?nMLD>a,qC9*9V'Kl2U>SYvLR2m[8;ICGS@lZH%)-U>Q7N@C&ncOteRK2:1h-OXng`fhHjXi+;3HB$&WI@G][+X+-tK.N[8FN$TRA
 )SF?g/d;RsUONUMCJC?0o/jM@0a(T(mcU0Df4t?gL'-xJGn^4n5[IX7aq<xJ-EZtLS('7Xj1/8>awtIdl-++@),p4JSo1b@Ed,1piFseV3x(k+T]/)S2I
 m+MRI?9CKPi6%[dnA$(3]vnMWxSo-=&[3hY$OO-Cr@V2ASrAPs*D46@d_9bx3%'0u9,5nKlY%Sh]Xql=V><N:B8Mi:$:1P.;FeTOEEWEv^<B9_-(UJEju
 VWZ_l3Wn0Q(9c@,T$JDR9q/r-(9+sWeA7NXB6o=VNRb+jp*_%mIs$KWD`Kt$.]Gb3*ft/M;C/soov]c:Cc@#&&rg22[5FQo,<(?/:?'HT;T@:>]hqtc3G
 $=Od7ABEnRmu=N&C$:Q#VnP^>//[RhwK3:7sT<T6wgoSkejo8;qk4/on@Xn2V[Lo^D-g$mJ5;2V7`bsT%2Z'jVDWbCBsd<Tso:g`+'>0X/o#gK(9C#6PL
 =,cP5n1G8.j8kq0D:sg<(u+aN1]]U-sVl+tw:tL-?*dM9T-4L8ZBLlX`5]oCIUUBm&W_QQ.7UpdaseF9mH&(S:)XOa>_pO7'&_Bp]?U>]A-Vw*4N#E)ZZ
 ].WUQUFbn#,E.`#qB<We&6vJ&rD2i;gC*LY*1F.)ccA:7irE>_9&a>$pH%5RQjr+&%HRMk$1eRZm@wKY`2@<J5*%IW4R^wH.u41=O(YKuPVL0g3[c3B.=
 KRHF0or8LJnw=r5HiKJ>9^Dki:A#s9wD<DS='g0lqI,VgQt1,K*#f+Gh*+<(QNapM[Ei0(C`d3svnA#9ijdgUT8LRjb1oT>SuNF?Rj4p:;u[wu:p*_?<%
 _c,KhNX-nE'?AH?f3Nrx0LU>2'oxG2Sx8.5&TxC'@U-(b1Jkm#lRvr?huE.XV-9x%t0*vXWpU`DJogMA1cEWEFWe%H6_RV`L#UFZ:c0]G<MN1p>$W]@e<
 f%wnpSM<-W6r&swsYQgco=SN-rpB(pNu^pFGklaB%^QetpnLc,?U0_4LTj,J8?K+UYcx:oB1(<`)444w8Csu(%:;o;m(faWZnucFLc_.UeE>h8>&*=$'c
 [Alv`He%q]U3uLZmP#?`C]4Kc''+m4t*5n`IbeUG]N?C;0C9DYmKjfj?Q4L;+rb#h:hPn+_C<+a4e-jPcGsC9H_ETS$uu%/6?CALA5ARk,('uLd5<P[UY
 Eqr7qx&SF$2)pUJqA,rP%9]@MUbp+U)Z6Y+K@R*]=g&#K)(nGta*9`*8l1<<`HD/)=F+?bA@CI(*j7/PqCq8m3&p/dq2:`tVdPiv*Es3?jH&g8g%s0X_R
 WH2p,tWTA9^kAum,(%nJ,2$AR+nb0ebMRP)Aq(wnobCXwdt+sd*s[RDVu%?'RKZGLuX=9xSuP8bF'Fo*ar?HA-4c2=L)N[/Q9k#N)ar50Dr?HFJiI.N64
 JQGmp:u/;7nNqrMLo$<7o_RB3[6_-*C^(0XI330;U5S<=G2E&*7.k14Y]VE4rZFK-;FDOwoSA&F9E^NJ7L)PJ'>(:N#C.E8&&a;I9o]UPb^fHn7ShTU3k
 %wUTUc:apkb^KYO]Z,'9P&Cc^pl;<*5;J9q/B)e&9?;Oj7iofGrAq%@?Krd/1kitK=ZMDC[;6S4Wc^VaXE>mDpEW3.4b9R0UKp$abJ^JLoVT.Dq_qO%br
 ^7GGb`CZe.xJd51UrX[-Sa]+.>sQ&$rFnqH5paBFKH0k')oc^5&*`7VSe5'&OdR#E]+B7-vlf;W/+S-=QtlFP1Fi?WJR6TVvQ=I1o%&F@[[VAu#BdA2kc
 5.3XoprC_D:$Do+-bx@lp,Yk4xYRjZUBKo8,IeqVZJPO`*/)iX@/XV+.P)vbnG?$2g34fcBvPA;Xr0s7?6n[1kCK;(d_<YeJCwA1tqKF*[AYwp)89^1O_
 .S8N<:0'Gj,<,Ea[=T><oZC4mWqk`&Ti7mvWs:tkNq<#mg]GYa:^FuBgO.oZ>+qTsK5`8DqcVn-;Xk/k9'Q2A;I/l9,E3Z0luk+Y>+OGHo/etv_xTZ][r
 D+(aSQiFfT%'RS8<k85[8InD@cZCbZH0JW&3^,NwmKsFm=M(E;r/FFhQ3o]3+@qU.a:9T2,jfa6nQ2f]S_XZEMIq(.(3aqF9[#(<B,GUv9i`.k$Ictv2I
 `?,N:]F/R%@V@^pWQ=cm`(ebgHJfq$N)/A*$T.iRos$*UIN=A2g#-@@P0n^okUc5D%g?VbHM8tAGFs91ur@s(x@URl:;9H`'VngFsXYGT<+oE^]vP3c9k
 ;Ha9,Ru;Kpq1nTZP_Oi=a9]jH:0/5rxYkiT5O9?^$Z,@+R5[t;b=V27gloT&oQeJC520B%f2g]xYR-)M+LP8R1NEixq^So%N@7Aea#M,(8M1$K&HGG:1g
 B`1$-OtII[i;N>p'h)B(0OXF^*_w5[8415hS+*1r?dV-am8QcrIrLq-xAU=0TSVBJC'7a>Q53sVUCdK5uI^N>3`vQMtcLo&J:0j'[:oZL5hs-&m'Bn$77
 =WT8^Hg?b74(sgcX$1sA1i[bd0jL@e$#b3QL_&a(+S8i116W4D56M2)a18$C$&-g'^,aEjb&g=$;cXk4GaR8_t:']8['BWpw,NqwobU-8fM71SNj-pb^?
 M8m?Fv0@*S>>rCm>@0H/,c]Wu;U'qNd`+WD=e`ZSY>C113/x?n7(@;FNE`,mVb**i%-Dmqf>qT109f6HK)/)^Sje/=mxPE:t)6lcWZ7=7NLZu8MM80O7a
 Qtgiuk&qCCrK17C:Bv.w-#^H'RhvD@ilq3k/63_sGb^LtX]@T=GoT@w&VhAIJwROxODoi:Rw&&MoYpkh.Qc$Ok9*S<2-N8$1T5fxwP15hDx7r/)q4T2ks
 _RL_Du<L%Fw4el(e'sMrHc^qIj)7H]_^st[=8$ZmZ`[L=oNZBN2)(AAmE@)v*+Ppv4o&2r?jj51T8QBK)8*mlOT%AIk_=$wT`rFZC59/qK[@dsa&N1Xs(
 b(Dn$ni?UXOt)>0Q`1($pq+LtZ(&6o,a*#[ID?u_5[B&$P]Z?.c9lYFqTUs=&L^W$f`Z15A;B5c^K%YC//:@h-$5j9sBigTZ#$7+TWcMN#3DjA1D<ANaT
 rtOIx:h9LH4J@/G#6CYcp'caA%gSC9W8>llV/VE[H-PGVhGoDPO3cg*dCMbZh_;I#3gG?i^7_[R_I4/NC-/=:*qCR89`'G@igL_-89iNcsc+SlPJurEh]
 L^])8>`YhD>33dtTZ3FL?Gi6r[+bS`)kWY0;xE`,=i:m0;a.VHE-A9k`kjU?kcI+'FaTJU?FrM7/5O:1LW'/PYEN1GVJD.pMFY5Nh+Dn%][1@w-p>`QgZ
 &./2SOEhUnSJe3>MHm]^nLdT<g;2ga;Q-T3UYkT_/`r<4(P#3uao2r=a*eA.)6[^(dHekacN7tSH0'03kx,;#@E%kVV-*%7[:k'Xmwq9:&29cC8;>i/6%
 ]dTMFdg'S>tG;f#w+TX5Y^q@Jv2WXJD7&8vQgBh:7nR59#FgoGG5'SQJnm$NE,?[Yp(+wun&3>Ym;%a$FlxOL;$sn=5P&*I3PH.)LP#?Cjf6MX-_cf3>M
 ,POfHL`W(,aWePg1H,bAu7Z8_8%[0LECK5^(_wYF9wYLQ.Wn[:Df@r0,%/(rLSqjS6nF4s)<IPA+cI:K]_vwD^HM*r:m2/sLe%&L9dKc1mQ;Tnm>.Z:$1
 goXF]E6QwQbdd5f*.?Y&:Y[Gh85`g^2aTVc,X?(^SI;%gQ-WZc4QfM[[`+<KK=Z_6=O.gdMk7kf$R%;Kkb`UJJX)rY?AtZ9gRngdb6eR<gKidCa%:h@[o
 EIJ.GJ8EeOEr_mMmut'ICss*XJ^_a7;DlfdgRmk'c=M^IQOS-wO<F[(F;7OnQT`j)V5^,v&'`Rx&Efl[p%%a60G`E#JSA_7(4X?1.r`FFB=QZc5.64S@9
 NS`n]=,nQV>Z2)*In8[>J?B]>WNM@&`kR7Qx#I2^x]@q];J8'A[NZ$u_-L?A:rWUvHjcSZ(s)nfNm4/1PtkkEbCYWam(c%Z,vAQ^A2>:(/nM1c*9T3l]C
 wcQgM:Gvxs6`=d@?me))VhTRD8qFgVn]:uG<Bn-]%qXe]@O%H,^Pf5anWnuK)u/l$vCRAD>[s%2K6u+QQY8c3`)R)*6P-&D5jwglk2:6:(O@9&0HnIAZF
 R]LV;jZj9J_ZND9KmB*/0]nA71xNeHS#:M;<E<o<['*/uri%$08)`fAbW?F4@H]?$CWK;FWqRe&]hV8'/?P6TPE?Ddfw)X._ZAlb3v(<c=bDIjJ5dGLxj
 *^tdJ=^gAN76ShO%p74B]T'(OXT6wUuWCbe0akCJW185w#J'r0px;)A^39]gbxa.e'o7m)9JMM+%n?14l3NCFO,c2't[qguOdW4`u[/';ijWlI@q??>ZW
 =3nWSSs_.c#34^,r59OU<S;fHoNIKFEYS0;(UH.<,?jt]nT]7+QYN_O?.<ui$-'XB8eVNSJ;1o'Irm0&7JFctQAvf(NUD;$#'#+7bRF43aT/F?dCIbjU(
 d@:VQ-9R/KLI7J.u:xt,l9%L(Dh2Bk:R(;(%U5=vvhr0[1-GE^TO_./8ucv70&GWJDR.>.+p%]UQ@:]#mnG]1jwtial5*%[^D2&Jtx0Jxa?M`F[t3RS3K
 m_Fn)'`(if,1tZOl9vSU5trcS_2:)mt74[mU'0/:ib.MMEPr^DCs6(090_7aaCt^J7jWH=pkXRbX631W$0oZU7X:VV@Z0<JHRlWg:@mJwx`36p]EetL't
 o[qD?''`m;JegGAbLhCl^c=b=7e$HEX/#%kH_+N9dk^^=E.ftBkcYPd.lhJPNr0H^RLR/fZMt]3?KD]rQ(cnmYV66(L7n$,[Lc08m642]t.I;jPdYf'7,
 jMrX$<@l[c55h#>OD1SGg+RLM[[%'F,vgisgCBpC:*Mmc+J.-.LKhtg8?5R98AH7mGaWreN&eVx&Ygm,d)RsrOj:Nh_,=jPkotMQfn/TmNuqHh4>MSV)&
 %=K/'UKXT'mmG9Bq;I/7R2P=%?[6Jg#PXFQhUO_5#0R?EI5x=nk8P/jr'ja5[xq.I7a]R>fW%.DJV+dI&bR,n^2TOo4g3UL?@70ImRL0WcC_dl<_A'/DU
 WUa%;SLWjVk%&$,%7v+0L[*3NF,$6tb$-)Rd.@;gp)LBwiPXlIFnQJ`R.0:&kHQtwXu:^LgY>`,[_f><@1.SQgd[BQ;qh_pfnV-fHkv2.=E'bN[kZ#l%M
 m00$7=c).hKDI=%]E9c2fTWSR0O-mr<ir#@eTbi=MC9]D+DYS8UJMHH7nTuE-Lwa?d/7gdqe&t=P%L?2En#[Do:LZFSi,;s.?7'.$@lR/,W#[d7cxW&xC
 dv@,*^nog8eH^WXINx,VL+UOu2V9XHdWm<6%kbCL^JOP;+dXkn0,xC+lb*@PS48Tv(JPb>VJEGF/2xeOS4h83?)&<%,Kk31c2mrSCQ7VmcYmtfhq;G^Ia
 CwssK;)GqAb.a2<A)<^:4#B-26HohUvwdh?Fp,>*3-b<Os3Iu/M_baESLahVaF59DbWA=3JX,>L7+QVrmU:FtDx;b8)I$wCd/m<xtve?Ja_bdepXl*&@u
 Ar4W[+M;.gDXoWR`WCs85YvK3-sT1+QkofmYYTh0/8X#Rl?NpCg-hSE[;qh:a6A`G4*2=/_SW`r<JpC95((tGnEKS581;%<5()3N`aU$YG]h)lDV>MXg3
 c+S'08Nq#UUfP$6:0:M-)t5%8;(s2eOY14'#@&15a[^,%P1Wr@#%9BR*O88#)9:r9rUn'<K8D%2)G/^D8p'$G^BZl7:)K'Mt$qBNUZ(hhI.@%,6gV)pXX
 A'L2s<:]?woEYe'_9ohpNqa1hM'D+8*p*'.Hk+$P5+A5)=PZTfAt=@'Y2d?XK-MPXY@#quS*tE3q#6n]+-NZxNPZThPpBHM^VkO<X(`rs[%='-J&qxu>6
 ;7%8(<8hWPZTnY<cN#]/8YJ_`mZQ0&$LAD&I=i2>(w0=#LlV26W%0g4oNj*3a7+^(8`Ggi0C1qqq:HwW,/iY7IkWQ?/Ip[,>JW9$wC]8]n^mE/J6?U+te
 gN$788N#/=Lp5((0odo$_FgwRhxK4F7a`ZpxjRuGmYF38N&;meST`V<v=IMlwrVl_nR3B)wZ[E&&)s]JCcneIWMtMkNPs'=<7jCjP]?d,wcb,^quB>&F%
 rM:.%dxvMIr%C'/+QK6&DpT_Dp>e4[HhxF2jPK#Ee`b`Rv+[</-bg&U9*1#M(O;b`90kXoMORJ0W1vmw%cuojV0/[e@uEAuL-=6[,@.s`L*?qpZXUIaXp
 v@4b9SCROfbphqpBN2Tqe`XO9dtiriXF/A)Bsoff3;9>f',Y(&'KZXO;mGcP+W5hE?@Z8HENw@-=/a`^m3TqGjX+KY]*Kgc$:VHs>nL'T]r;>PEjjm)f`
 K89]:4Aemlk^m`R+W)Oo?;7lMed[/'D5f&CwKm0r%v7*Xt-FWf_0_shp#1EI1(/I*VN^`#&0]%2aaIQJEYL1<MG%@*vsb^93S[$4V:+fwM@<V)Lui,e:L
 EpIgP@KZ3POxH;L*9;[5V?1?5?3A:BL9K>(TH&np9YRR<RlRjX)&kEJl*f?jt%@L4RQ6&KL;lIPg3g>=&%?7+_ID.UTReHWe??^BN;4bEI[LfuKQm/aAv
 3%i24EkJ;pX%Q1LefjI/'`=dul^Y))#X6qf[D@O;>'hM?9kH+/5Vs6*`gA:r>>7/l1setYsJOmf&+gc/['j)HvsrdAI+q&.U/<%,>rEcp]sQsKRk7_,ea
 9(Z^-N++&?GDq(&#c**Z^ZMcw0.a],&_]0$Xvc*/;kEu-^NdSxDfu7`.T/^bC6kUY/w/TO_*O2Z]O3PgWR8[GZ#pU3JC26?9D&x'LiuNr+(1610P+AOMr
 %kpC4-Zkgr?R,u,?<7MD&<H:l4EBG6FHh<1hW8_6LSU.+`7q@&F;AQx19j0kXt0-@R83-txc;O81?cES_<OK=:k):^rF@L7;$Q@8tX_3ow,.(g)@B3,r<
 >)LSg9LNoQ$oiRe6Dx]N<OMRm9pUC*`:k]6SVoA/4E02(6Nw(mH8pS3c1G[Wrt>EReu/&`C)#K4C;PVauF3o+V3ow.G(g)@B3,r<>)LSg9UWstiVFpJ[m
 x]7WbIx6>0N*5SC^&cj.?u%)[rnhP$#W`$-^]XON/G^i?@j&Ns]tTC25R12>R2O$V@uWh9$?-?V5JE.^h#f[SsB*ueFrxY07gBQ45?%+c>nXt4G$agBGX
 /Y9c'(B4Fhm^*5_*o;;tWRl=]Yc^Ne1vWn2w4Q=UdsQZb7PVqU?*-*T+=;dRbZYiBqBkb,VUnk/^Mbco.NG%NWI1h]_=(/6Bql#gp]5v_5EH=#Ibu$]'Y
 ,&M;c%_,]<GD>LtbH6gdv4A1LE?3gJMHk#+/2r6(<8,hbg4dS.VFh*^WNQ951,^p>]2K==qLP(Hj+')osVBt2[B^F*HKM&'8#aQX)OGq^^Y[?bEvH^0fs
 `P]q,lWIL(X#w#>8*V%D$e*Jlw#V>TR5/f-U=)tJ>LEpIis=T>4<=mt]0CJ4+5'^5eS?I8YdUaVpdn.I&8<+^Es61$;VrkKQWNTr`o8O$UwDM-nGdZp@V
 UMndW4o$g;&^[FDK@4#&.Z_GL7cmP6PH0bWBFgRZ$HEj9-['_hXmG)PQ2jT+oKTg]r7<BhK3caXupifwGH'H]*4?PTA&HxvIgfhoLnv8V-omi4t#BA#Pe
 J4080fxng3c`wEL='9XR1l`qUJ9jV5U,Bcg/$$/k0t-N&]u(+b@599]0W(qtNXEc5D(+_['_gd5`/'h<h?Gl<68NAZ/xO38)oc2AueIu^=g3:I?svK3cE
 wXg$RcSk1BEcD8;i3upV3e('OM*8G[%BZpK5F6'`iDQhDomrG8]-Df9Ol2Ded,,61N`Z8ZQdmPe6rs9:-WO9/?UB.V&LS]L1?Q:i$XJTvkk_.0lIgoWs9
 %s;?SP,&qw#N;Y;OE3lc%?@$6dtgsw.MNdVBNm4_lg^GAk_/GKfRHP9a078u-HM6uDj$VKdMO?b:#=dUO&M.-brdiSipaR.8<hw$dq`V4h@-Ma>Wq?$%(
 xINhnu5?o'i@ZS2@eF?-r]lmW2]-36sSr3FpW-rHAFe4?lS(5?,N7m=SH+/$:*X4=*l7DOg'lEL%$B[emto.rFJZ8E*]@FoJZ5EpW5dskrU&TL>L:Cgdv
 gG1?qS)#rt(A:b%`?q*se_<pxiEY,cpE55P=9(qTibocSEB%bH%DUBaFDNa1/FKPi+;FFZ`AFW;U&A((q>Y&3p9r2Da;]w$A@>:H#/U$?AL:roNe742JB
 P+?GC,L^krll?i2Y:g3M5j1AHn,jF9b7JQe1X-&ACQR5(cVbAsN-vH$#Jt=S*O#MWE-U:>i'm_IvsDp[H<U0cT+:2u196jT(l8KZs<6T8vw#;T),D>/S/
 %mqu_?[E=Wi$>K<Duc/woF^]w3RJFkYni/B@lL?G0cm*nJ+j=PXu$r46O$bd'UFBv/tF9-xuE<=YuT,x(oLbqj;j,x'<MHC_k;&?iCb4LxGIk##ZUK$n(
 -0aeI7Zw81N6b1vJA5KZ`rF:ZdTpY:M>[Sk(5Ag5oWDARv2A=dEbQ)*]F/9no=wFJFO&PK7Fjw&JFcJF%AaEH-DIK:/-/NQa/>_1Oeep<q)-<u/Gk+=RP
 KcUb9toc;2GRsOx0t0>v8Q^sJjiju0Ga2e:/DH-'ovgJ'l;_H2cNn3+?t5Ev1=:ShXB`uPK@x)kS?=F%g)wb</vnn4RarnLaPO5cV$^['/3DpA=YJZ:c,
 l2:&nPEF_D+Fdl0V=IFWQeY4Gakd/QcXtS<#7uH1.?&S.SMdm3SMo^<1h,Fa=#W;6&li8?H?5$-jPcGjJB'jtj+_w`AGOOs7+3f6U*t`;u;6C4JS5>G+6
 <.PHq^@5,c>;?Sb7U[Y;YgjSUt16;m#vxv66G'.I]V4X'>u:US]7BWSHq#rl77%^(kR75<p$ve*qupRl,_xDMg1,-1Yqj?Z;,+;IaCu.Eqh6&.$TuOY;T
 ^lL]/GK#3ea=1j7v2$h]:K=%(3.._PvNrNs'lXC]B0^ghq%l(AwB2Se/B#X*n9Q@()hNC$.[3M8HR%-Bpu`-MZe5AHRp_a86t2QW'*p<-V69OdE3=LQr#
 QAvnffBNpP1As/9'JHag:0;%QhXgPm>a`3FF2fkfG,xrl=OLW(_;D@+dFa[TU-]dj8KgN/]jG;o2%>Ut+n>uJC2>NWsSB6P)rHw=)g1C:k_=1Dr^_wJ2E
 ?v*N$Nb7hR7ls4u_FbX80B2@>AeC7)t(u4fgxv7xpsFb#/L`nX:R[t'8<6fNL'_tC3T3s20HdTuD2H9C4`*3H/b['`5)IaWL6D@i8HE9iUZLsC6hLQxbo
 d(Jcho>;FO%*oc9g`L*6+11Dodfc?r%3;PGWgU2SSG'kr923SoQh;$r_Id;XItW17L/)D&vHDIp<o+'#gOUG'24Z5Td.OHSa3vgN&%sbXK'&6PuX;;B^Y
 g'M+c#f*4.d4r*S?T@;fMm=A8BWwL>N2n2uW[qS1(,D2Ku.@.JCl*g+4NlIM`oaVTx:fd(XKZFL[E0l/Z63tnTBQI'ek&4mfVf+-pJ;7cW_krW+k>JDrK
 X'-dAbAKm*F(;sj%si?`tDg/_co;CERT@QPcHP(U5T5sU(=LooG@=Wh2`J_:(x<tf+l+,`abhm1gd<`3KxlpD@'ET<j;*R'Afdjv$8*%a^=8T,YvW.+vp
 N+k&fg=9XYlqB6r@'Ha51#Tu1p3lasKn[Y.<Aa_=%K-@_)Dt,#)pG/b@]Grjan>)ed_E8jDvi-aTYF7Q;d)8b=OE9;9euP0Sh,<aOEIVC$:9W/],Gr+NV
 d<Y*mOfGi*shl3xS-ds/NV'WnDSWk&H,$+YOF/Y1P,'iQxHUGqHKih&-R?(_)#wQZU'e9l<W[-CKpvPGWuwqx%Ud;8rR,)c_0&u6oOgD6K,b*qV7E$Y&a
 @O)7MU(rgpL3xrb$*rtRe>Yv8#NR%#BTu`AH8@vxh<#6fK2c=&Z7H)[m,1p4>Vjgt2=1MUj2HdU^AWb3auPenniZZV:>&0m0qBFh+<xSU&PhN/@-E1im%
 @q[u4)r4*`gi2QX&ac[]mNYC;uq[PuhWiD7J$1GZc77.Sd%wZkp[*3#`*Y;j`L3Y8ES'_QI]G2A7smf0KUFi;An?EXa.n$F:C6NdBRE12L11Ngu8tsP$Z
 oxFBY^7$UUOx726Om5:rPE7Z?JX'^pmXg_F^'G1]I4=Qc3tl>vX8FDPjF*A(p##:R0@*4g7^e9eOoJ_m?M*`;kA_ZUiNi(?+wOpUu1j7+JDKHFSR^dZ=L
 nFCRWP_YBH.;rpB.iq)WJd^:2'+u6uORU[$k(/f@`a,'_U,ocSYfweg:=_r's:2>tYP8qr)jE=_,,@0oBeuT_q$OS*Y1l/3)]>JlI$4^N`s6u6sHMX`uq
 DFlhdbs-2f?=PV<;A]NEO?c5fWpo9l>j@s?q;&?H6JY7gY1D;.c'>)NjYN47#x=9d8Mk3qdFZ,eQ]WIo]Pt-Ar$P=*^pY/j`6a0uoFjr<iNvcmBNl*u9R
 Gl]aI%dOU-7u:@:rbe>M?`QitmBjXt7&MH[^5mOgj8o?xHl7S(PkKmEC:odiD;t*G89>ppeQ]N9QswKO`Zn.91T`pj`Y(3`V]Cbn2Iud1;Nr&DuPskKx>
 i6M4B@,@jI%n6Od6<[V=B;(X'1W1W5@.LX'VMQ3g.Mj+Av@R:dca6'i%YKiFQH?7rs3?`UNa;`,6:9>YwMB+VFm<khM^YId0k0RM=1=]6Mbu+7*jjhkHw
 E`=:v-@QL2'kn7[%jiE_YfuXihiAFrHC*(ja.@Xhr[iMo?N:Vs:6<gxKuHd&(d-[UM#R?F4a#(WJv(=Mcp=*pYe;/eCaQ0_)LJhlS`9=$Fh?4x;(0oMTE
 l>%Rh*]tj=e49o/aEHbfmW>7[/@]dGhchtSeM)43_U+rh&hP-pdi_=Vkar9`ZPQn//P<Na^CvSD,O4,]mOb$Jt[HXJ9TpP.Ynl>W%?a[,qtumTBDLjxjY
 9wCe_d9Y;/OABjwA$XGE:&tiq)u3.So:R.m)Vp35:P/9H%w=i#]gvfPoVx;iu1WidNxQk91;7Y8(8&:IU&6@Snkdk_M.SPA_AN1x0w,.sp7&k;Iqlq8d]
 DZ[aMfVbj:<)wXuxQ/Sdm(D1?eJ2H4N?+fFgfJqU%;gHjYBw^Ptnwvdc+Q&St6ngQ5$FqLwCm*`8Sjl/=(DUA9HkN?pDi[qCrWWM+:%pWXHx86S,J7N]/
 (kTwh)M6)Wm)uj:CXpT:>ANp&>N@$$kOU>VO.IcLL#PGJ4mdBLDb5Kj2sKP7AV&=Slh$^E)P^`m@pYKglw=$l;?E4PT4nbs6Mn*XwXmQG]`[UO+`#pJt(
 ARYtq+3Q*_55'.q;krVbH*j=Pi2i$?o3t#))q2VPaPN(r-FD+G#cshrVY/8=v=7I=E=;Zn>r^vVitD2dx+-Zam<lk72c;Vx<WjDLBf%Arlq5pbcY9/ikm
 #<cFI(@OwUMG/ql2lDO:<7gZrnQUOI*3`)hSUdDY0C4qtO:*Qh*k#)r2R/lhBY6qw2?g'.QQ^Ln9;tV>tC5I_FNFdr^[ocHbs/*26d?@tX/&Il<>ZH.FC
 ^*JA<.5g^FxF@7+k(6W#KgZSrVhW).2gFOQI>^$eut1E;IOtHUnM_j,0#'bn>bRcURk-<WLnqbulTGYqNRDv'%9:B:ouQRx/&8YFif:/n8[#W8E@-+,*V
 Z*jL4,o*L70E?J^s')esi7qH-V^wJOsC<vt.0pI>sgY8Yh:&C,IAA('A1gLoFt=,s09_WLV.P+.G_=b[li`1;&40v_=%CX:3:sNbt,FQUZuB-5g)vlGR'
 ]1[k@$KgUW5f,7$$`eL<^G63gEl5]2KNw'VI.@D]NF_-=N&.$5t7V]t8FDqM`X8#Wi%`LPnK_T'[IQr#(SXm,R2a(cG'-1.8Dg6Y2LXsEW/qxOldjUHaw
 0`gv2[v;=[l@)+6@(3gu9g>V9#vApT^A*RPg%#N2&AGvIk#fv9&,X@UOP5*k`@sZ/Zi7*-@]P4RB-][@4`9;qrTl9`ncS_cL5`-k=2i:3wS[].&2t#d+B
 >l@*XmiHtjtg7%vgWRj]_NH@uR]d64aKpd;L`]C[Vh5?'Xm,i>>fPC3[Ex6Q,PYO[jdf4^B',C*=Qs[Q[hcG;==]:/1ZQq4V^[]3;&NHg(iTYZ#gw6J'6
 ?r)k%Y&5k'B6=h>Qc,e$U'lWt)(LH8v>'<r++>T&(mp>6b<Xch_TBEqIvB?ZGGx>Kl-/75]1^$(`/pc/P@BPlZtL]*Rf,%i*>[do=OV#IJW&l%umv56l:
 Cf[Dnd$*vN)coKrq1Ujm+UYe.nnD=UPhS7L3dlpC8i3N6lJIZ1h:0-g?TlX['i-S(_pLV0&rQR72Z&NcGGe9C+i34xude@s`/k<je*gV5w2^OMr$',^cM
 ^F$vfW?_K-@b+lbA9h.A9;WwPtv@BO`x=g`U(F7lqN$S#EwDC@bwMWmBYc*R+)=pdrjn;0qC0x^h:H9=%#mwIQ%;vA9TvS,l`(w+SvGdfmQi84xa(k-Y,
 `pX^uH/9w=5Wo4g_-VRN9P[O`4,,E))rD(H..^fY=PB8&>$DO54v$p+:?`J$8@+YqN6A2U9hewPlg$0)^PQ#?GCd-MH@UnSi-q/8`OgRtHFLCA#Su#r)f
 r-Eef]bbRUqk*VO@ZY/j_G[pp1>(Hv9[^RVQ=X7=0w6LMGkhtA](trM-=`.Tj`To+DjXc`a8aSpa.(%?Sp#G1$B@b3<e>ZB.Vatg2U:(l+#x%[/r?j-as
 rxg65qoR@H$G3Ju@f0Y&Mh@9)d[uSamv;6;Hew%rZ[H(T2LiRJI4YjS$1.d:v-54M$>38l?44`HewrU=_H-Z;2JI);=mx2PkbZl-JM]g#B9g?-a_=LLG'
 -Gu?r,Lk%u9akB?'_Oor<eLORSp7K&(Q(h`CD2GqS=9$d04w(Mw0BZo,kF9?*+F`2k^%81`hJf#hJE,W#=3526ZKPH._r6,i3BcVAu=WF3Iphd$)c%6$=
 TlUGSho86cN8[hYx&bp`B1&108T8;<h1O38AiMpA@no7?W?&xUmF%Jn2hGRVFO])8=8Hl^A:l;:<bqYGImM+kWC*`nRE>h/Dp;%`%1*5i3sWkJl`RE6ZW
 TW.];#4_LK2cPZlIYH`+;O:x1u`;K0CdDO0YcoG@D^YOP[bs&^4B1vx+](_<XIj^x3%)>-HUrNw&g:cJeZ1X`&:BH*TmTIo@sDHn-@spGT)>C/O?0C&Bo
 CJ-Qlk*/vu&0^Qab;K[icY8qNCxeU&2MQRRE$EcTiB@w5TenE:Vw*/[mt'jt39`PS:eZndX=XYUqZ%uW5hi7S#R%N5,&a8Ba4,6DSvX;45P`.lTGmr,AJ
 IS$XcVGV/Y(;t3r;Lf]JRqoK8,`l9=wKiHGVs@DJ2Z%@J/2XgaQTfRa(#-f$957Tlg&SCineG=5,U4R#gYv?_nxJ6Sv;EZt*9Xc8I/D0k5%`+U-wqYPUm
 Z^qPE$Q3NpuMj-]+Jpbj(`6n;W9#BlU?Ud8vh3[rC6(Rl7o@t@mm'ec/W<6gMV9;8JG89cWS4:/vfNrM/PZM^Gf@K4iS?B#',%NraO*JP=0,j9u+WJW(K
 X9+9SdPH9)[iesqq3`?WX<8s4V[1ZsD.)/<IF>^Z:E.Z)>l+AKUjMw)sq(`s)@,82]LA5n[A^J-ms4l3e0QmMgfmrK1q[(tct;2.Auq5YgKRIn)BaA6:U
 ,;;GcAs>XKq*kwu/38oHM;R4Xo9,@RW1i'E-p%Do.qd:E?7NS%$FtKK[2,eU3D60F['tVq/NH5&EOn=`261;?O4F5jUMHqvKUKuN0vF<n2tkBM0)OagbM
 fja*$>]1*K<<<'siHG(6SCJ<<2FZf#:.lU6Y;n@WAeojTRw:+'oF^c6lcr+f53?h#WB'TZsF,P3#MIZv0,FxIA8lK_iiem%pD9Ex[RL8.]J3v@_$D4:K>
 g1dCU<#9*:`Si]kEo5O3pnj^ZgY4moXlGEj*9in'H)g3F]2Ou4Y2SQmLW,X4v]QQ.[6t`b`/6-MaKYEI#VL#n%ao(l2*M#08'W[7rLe/(?#uMl68M+pY/
 ACD=exd^Uvb?x&3m;%B,DB=onv>[BguX<3%.2pTf0^$uj,$,ba)AN7]1r_^gcUH]'1CkK.F;1p/T<:.:JAe)V<2T2j(^8UO$;p9s]-X<x>cGYDn;h8UHr
 7;M.S'r#)j73T%+K#MS%TvEYoNl^^ND:7=RmE;ohFRtF@([h=W;b,S42L&`5_*A/)D<u(nb,^Q?Q?RbqGihmpMDqSCDw^R7]OSFc.86YstckTdf-osgqO
 64EIMn6^5;m(,T,@9jK22d6(NWM4GRCmFHSb;+?1Sqq=BE*Lw,>R-;I]onME/u`&tQh;T#t>b=]Mkm)F)SnEoC#0Lq`$F;F-NHV33&.pI?,Z'wgIfQZ(v
 .hU,uS6na2OS:.G<PYTbco2gdgHgMul31gspM9A1afr;#_C2u4M(tij&vHnW:Kxo9OO4>eN*K5$)%dwiG)^]q=WK5Oiv>7mlSXB$O#_=8NhCJ6S7Sb91]
 Tdc)ejq>)W;B<<aj>v.SjO*L>`9(_kp3AX4B=KeXY+XM/Bf5[M@6]MICosV.`ZTW9)_bqQ9,;Odg]Wa1p<$o&8VBaf:Zj^a+:0DnDOa,^D/P$HO#(Jg:x
 W[EEJ9Zg*cP@=>V^K%TMA<fJPFs2njPOaBu9bf.REe)sM%_sf@S=Lua;Y*nlY]MxIS8QPei[ff?+d8i-I5Z12kR&jppqnX/ov756lH'I>de*?DS^_%3Aq
 &q.G^acqYOjrr-BqxK$JZYJuDUJ[e_k)>)o+=;<b5OV00_brZaCS?CDpUl-68J^7_Rul.BpkT>d(N?d+A)ib0M42m73P)Ht=Bis?:'BYn&;K5d],gf,T)
 ,vpi34>JS:G$k+C+(#S&F+09;-WFJ7GZ3ilsZaWD&=1P00G=p-vh:O]DCSXG_oY6oReYTkYLIQtrtM8hT,A@GwA>A/be2M]]O*8`UceH&B0m?xLiBYv>8
 l6I?1:w;o_.GltqVj%RsCCfDuRCXtHm,'.a(AKelRAL18K$.NCGNH6d`-:ML03I+D4>i3v`M?xXIR2veY/>x$hELMnj(LBo>r*B#0i<8-?O:Vq#plAjn_
 &a+9&6%Z5<+,uqrIEh=IcITm7P[#Hs]Lk#EdBpWh,xf)RB=9CQ/+uX^x[@<%)aVJw-NUN=t(Tfh,][ONn(]L5D#M0K8CqKD1EZa$[T4.CD+RIQabbdetj
 n+q1Fu7+V[$_8/%,38c2t+:V[5T=/QrHZ(7DtfZC'R-1b`t@*aj_JFST5%=[,mm;&bGI-w1D_R;?)x*6xu?,_i1Hs$<U+%x0uLF.f-*+k529wbm<[8p'H
 RQNG'd<5Q77Z.[)F<6P]-7[sm^O(lS#+?Ukpshn@B4R()95vwZDE0i>=I=.V6Jc3a^MkRu+AG?'&g'-p@O1rc$0uHj0nrc+NK]_dM8HXU%2x8iZ.8Qeo0
 R;`8_J)($g[VNQ+^?VlWf8RMuARXcKh2S'3j_(-_Wrk9]#4CIj'/E:EOodl-JteRZ2b+46JC,>-bWH3>(%)xqNSP1(A+jKw,XlP'ZiI]vWlfSa$U/@Scq
 /(dhP>lk3u+X/YHKPkgcD9VDH>sc$/;bl-=eHx3/-#$.j+b_I4jD/$AlLXA8?YY5,NE7343KHjRpR.0[EfYR.5cidCX0UM;r?ktGr?<]Ul)UTd+to5F1o
 j_K+bt5+rD4JscDbtOM2(1eO#/V1k1BJ8&/$0f/dlfB8BRNLopWbdZ2<G&p_gibGX30epX(ID9u0L[nJA_XqDs6sLE+aFfWW_&5um5$-r`v,4r^[a71o@
 cCNnEE9nQq.9/P_?5AC/J<F=fpmj5Z3sj0&le:V8>eOutmQ5&;rn^LSs$uHSO&7gJrP<<9UY8HK5^tDOS;1IQ&*4Y_g7hf`dp*c$&m9gidF4J++e`d&1'
 hZIg$ChbV*k>U$6Ox>_*C]_BT+i0+d^0+Wb'67(%RRf<lA.4=7CMXpi)f?ikP,6Rk]lx53gn0=pI20@v,.gF<^;_fLbvnssfHv9e;&9iu9r'+s^:BIu-h
 HkSLFESlH+XHdWA6C6tJAcO+l(TI69Ki(f9?<2i&lt+79<IB(g%GqhM^8l>C0^%i/Hx-4K0qN9rHQqEB@IgA.:PR'%ee'2i7;5];K0V]p&&,*kY#ZUgK2
 tpQ5btep-vk-PeE=h#+/>t[ODa>O-A-X`OXKRjY7KD5,LKX+tD<HS'-t$#sf;Aea3R(cjND#WC.2o;LefV+ZTU08qUbPK^u-_T`P3LXMQ.M%BqR.W,K86
 `P_D*Cu&D#-o/pGdbl7t5gX0(@08P(3qSJ377ONm;0K:k:lJXnEA7K_1w,I^%*>keRMUZR^n=u#9glu,Hr$g1RX+Mw:87DS7vxdRB?dorC<FU_%CF[lrx
 D=in)+o=7Ml((ClOcZu<6O],<Z?F?Fj5u74f;?9$_9r<ku.GT)1F4NUf2aM1KT[3#^T2j&^fnkwhY(13@.lHqB-xH8Q4sT(VP_=[tu9e`COHU'd;NNVVB
 %p./XJ1tc2J89YFH0)kRq;U$GBP^Z$&'.eXC%@)406aIJW=g*ml0fE>t:q-;'Pw:2X?@4M#f2:1=TRH,W1ioa/NlIF9@<?npw7e)@q(j.e4^E#IjlG4Q*
 kH%Cr/jcORDNuKiAK=XhF*hI-1<MCAl8oA#T$aCxsg_`YRF&>HuD^e'l&Xm)D3VF,afv6-iMbGpC(%C0H$&^)MmP[vSNNu:1i%ru8`9u:Q]dib+8-8cTe
 c0bIH9JU,;e`c3KN#qY^d$m7>RF<Ui(Tu/ft&ldr[=r@)X1x#YIP&S(.HcH>Wa-P*uZ[sQH&'cnpZjS_tZHZai]1^6@`Dxfch]sssCMKLBOH)see5mv&%
 hrQt$9,F3pv?D&3=s/J(^jw?HH/7Uo*E/EaZTW4TrAdmQS1.kDbNU?+E1&HG_ogod-'B+B@,N-RE&Ya@#bVM9W@l*?bj3Qnpk'?O=@7kqJ73DCaEC%i'4
 D-kPehMj>4E8G/'JT%w%pBV6cg4;.&nqhU-F;5I30Zv2j60Z^M`_v<B'DN^l38X5i&?n*JM66IrOS)qwYi6%wN17<27;mN#w))=]]5o^J&r>F#/fZs6Ga
 0d08M3JARQY<Si/8j'C'p<O'T_5KlMWi#XM`?$:0;5Y/:l0ih`dw8iRIvcR6mtn#h?P^eST4h+^&jw7#a01QEp)cHm(9p+YYW`%=XYMhQ[mrw:U%js]#C
 h2Hpth3#-cNT8<CZlWo:Jkci&%$3ml4dVsW]1&ZRTp)E(N0RQX6lh?u-J;0LQsH>_aE1:0<Q_sSxL]tA0U]ssM>3SBR?kf8E/2HKj8&iw;MFI=(GY)r%P
 MQ[0l.jj-iXN4#Z6c.Ve_lLjG_Iwhl0+?Oeq/^oWOqjm=d[,Zv)vwX;#5P,WVY&a%ewFqEhitK=kdC>K<3JBD6VV<;JMD/I?bRuFBZpZ'qoQe[gJ_)LJZ
 m+&2$h=U$T8#nc)h_ac]$%6_dFK?Nxm^4a:5_f;d1(R[-7+O&?QYL'dV2U:I+R8-TFr]G#A?ohKR[)h/LB,p_wZO,Hq:9:SHAZ=Nb_-f$,%kr)=lkU;_3
 >?]m%SoK^oid^F_;kS+mn>wNj9CSOu):Ts%$ZUIjVuD^t5:1n<>keSo7KP_J2TJ5FOqO%j`tRe.'WnM%MVBO6,@l^6k+djJ)uFOW)@bHq'D?-`*<-]TNd
 1dm^u`)5%N&ox]5l&w#oYiYHhJsB$ll`oi]ww5VsMI.3?%B>Zi>&3p+<`%'[k&pBfwbNjV/Xx:oS#V]0gq3dOGJ@/uvoQgnDIv9*U1k&p-ZW5Ge<K&pe-
 R$k&*6WCiZ*uuu/;1s()>MSm<JC9-UmpP-)RL'A-Gt,=gg+)'$T<CE;20*.K?7m;+VVix0p/r1CEM<2sRZ@40h%?[PS?/k;fn0d7qLJ#Ui.f<N+B.cs5D
 3X)HQ(aSb'-?;xs,WWt.1TuAI_p#KSsIek2X&#.;qhlp2Rht.%c,;?Jd#=*X1VH];,J?H3/_$*u):ncjB&*aaP7,nKG.VRH[n9*xd$cS_/Gro$Ua=Li//
 Um]PDKc]pg,K/j4KhqI&#G0BRpjqLABYO52t'48h_tU,gqMGL]>EfWkZ]>IWoF,=7(EiEZA9M5@dGj:qdCWg;Lw$^'29[J@ukID,,/3$?`Y(9&ZYC+0Ur
 Q47,7Tq>GC*Z_(ADLo2d3Qeq$#b8cV:'5NJP*V/X`/CwIb*.tqP66t]W8%qxcTIs7Dj5atZQ_Yn&PLMEjD[G2ONs(uom1tA/D@pBI+?SlGa6xnFP)[eBA
 xtV99k%%<led2D=J^]B>t9itfXOTA^QWPMqje*Ri[EDtNs*Y$sRo1f;.ua*J).QCE4hQUb1aBJIXaHPW^m7:8l?a?`^ePredBt<Tjmu49wk1b#gs[wB#J
 ;P<`*M-^6*K)WDl+enU4eAA.Uu?A_bX2,umvAUQ&$n?DT+8C6W>8'gqUuusDC7-56*Yb0V%q&<qQl/,)JkTZ.ubk>RL;<$v0lMou-q&@^v+qjAm_Mi:Y(
 t'MMlc&tXN](%NuN,;:U]('lBlw1,V;N@5irpFXFW8sYpqJKkdS(*OH'Rr2/c*Pp^5^rHcNpKJE)r:t-S(*d`^g`8IAeYW2ZB1^h&85Xi)r:2L)r:3DS(
 *d`^g`8ICG;j^FHQAx?Zw*;Xr$5.I8OI'I9%?(FB6>V<0lIw>^4l[`TFXX977.o<OdLm`m]at,-E7-N,;<H=j?$?5^rnc4[Ld*rC]/nb^u`n*nmjEsjR:
 s2dbgZuWO?+T$^Jv;mI>l^<oG_<KE*1k/o->hX77C4Z>O+)=EnLTv[13O<%#cXRpnn.0*:^Mi(OE.L4OF&<#kV-a]5F8ENlpK%88GBOK=li[jjLb^u`<c
 *R>%8E[@C2dg6VBOKWktjbI#BQ1wS<xd(RZB2Im=#TCa>^*eZG+q2hGcQCj`[CqPd`QD0;4@l;;8N]_c+^7cc*QwVq(C,sSEp).,lwYb<RD;9`H+UO)(C
 9h0kRo6?UvM9(T&Y@;N?+;2l.P5BOK[.qXE9M=_7k?(bpI2[qDP'/xnP:>^*as0#;^m??[#?1_#=E+,)4]?IaqTqeE7L)]=GmGLVsb2dbZ[9*9DC0F'v-
 (Ac9W-_j+?7$-X5T$]1]Xu:=c;N@2Q*o>$V(@o'U;8[a$U&[1qEAo;s_%b<nUL;#nE>a+n0q+2$=et6?JMCTn0F)F,XST1C;wD;t$T+a->IndH'RnK<c*
 Pp^exbQeSN7IJSG3jYSL>64P3A1kKW;hJBQ9t,NLkHa[qIp2M#A(DR/I[U/l>Hw0kQAw,-kA<NpH[AC+7rV^uC'_9<>4eFgW7^V,fSZsbCWP[Vo&@>ZSf
 6<YDrbUV$teqCJfT.&X^i)`%L(Ni^_i<@#>3ph+=Z(HJc[Ni[_;j8r]*>i3A%XQoI[IE'0>=j/j5-aLP68ETOfq=7Qg(@pwhJp5]4c&tKPNpI0Y&@LaF9
 vF&kMi>n/BOTJ4c&toR*DE#A;N@6u#t8PFc*6U=+59im/+_X:BSQd($b(wf/TG6_(O<ZAaFV&a9%w[`,-c]aNpH[A([9_o9<=s9mM*l9/-CR>.<?gJ&A+
 @@BQmo'Ni9+fBi%3sc&u>9lw1CwXDL]]i#nnJOKK<U``6P=d`QD,6ts##iKKQf??Zw:1_#=E@Dk[335/F@<LVvB`H+UOI9%B+>ZSf>FB6>V<0lIw.&V<`
 tF,*o.&Zr7Q,@RFk:6sehWn'?+kR?/(Z1DbS(*db5V%gfZNv5a?Iat6?Iah1?Iaq4F^?L.<0lIw^Oi,9onR@DSG3jYSL>64P3A1kZB2Ogs^l$YZB2QhW$
 2'WZB2Q<ZB2K*ZB2OV^wL=S/TG6L=ee>p()t74FXJ%>1&*J6=gQahQ]HtK(@kQOu&&7`Ni9%t(O92:1c$h8FWBFWgBP)$<7YMs4]>D%)=EnL4%TBMh[:H
 eG?Q`;NF[nDqXE-h=_7jeq':aF)]=J2mUTbZ/$:1l8`D)gW$0ejZB2Q<ZB2OV^wL=SuWmXI?Ib>Fm$`lB*&6ZW&J.U_<0lJD.&V<``X;HKO0xt`3&]nbm
 oiR&1bkdv1_#=E7=2(NDXotK8`?HBp*Rx8q_[s:)]=J21)%c']u9Q7VxL;^c]hZ#BOKZoc&tJFsY1p@XDL^L:..N;f<9Tn-:p4YgKDZlm^=<`VF]WGnGk
 fT9'UQcV[@.%@mNI65=wJ/V2:WjmD44',kU8WWYn#*t_ZbWX/lI:IJ1P,4c-<FIA9&0&q2nsA&MgJ%b:>8-_&FTS%Af%n_N53946Q&K$2KDHk1xBhL;;J
 -%4LwEQ6=8,,0APFIJh'K9*Evp;T7PD&([;Qp`rkB)V-d,5PCDIU.+a>Tj#cv05$ECXScP63<bF:'0xjQ8KM?rfE^lZr8vbXV$LpJrR)t2CDt*;oa1kk?
 Q]mV4UM+a;gM;E;Ph:am7^=4=h>#%$O,Ad?MT-WKPV2X[VU/>i4[$S]^]B7O/b0C^hU2DL+H.Ke43**(XoKmu#xft8&-=NMasHD=&Br&3XNY[sfx)'uEn
 d=/[$IRZ]W&+4Gsk&K#>60N.QTt(lU.cKoULn=L:a8]dJ1C21nFUCOalo*P>ppK],nbN/)q=#.jbWk@*N`iL_hoUk8E):q.5&THcTj-gOmZeu81,IP_qe
 WU6sJ7EP>a8%XrK_]e3OV9X+0LbEd&fo^;9GJNZ99^KXSw.S)>3&ZS<EdgY@2iOwpO$W$;6Ee5(j%clc3mdx+m&$<iNgt3J=xejS+[`R'qd?o_S9gog$5
 reK%tN7&LJOaf<P(I:8BK8cjV]^4GvUx@PJMSgT+4=p[]Q1Oa3kUM/LFX%iADAIS<*R9TV(I>q8RoMS*LUWe$O+Bqh?kH*?l?&)qHP<8JD-h@Zvau7F.5
 Lq3l+YBt%AEmb-@,88.F[1q<6Cngwub#MH9gY[KTuit*REo]svsMWbAXLH<*ThEN/#Rk]^AKP<BHka=.KXPN.;+]L7%-KxjB`Q^w4K9wH)%tq.0<9[<><
 lv?'()GPax+#s>Erhumt@'fD]+gj)[_seY[UCe#-6j<ruE?v1`bu3s4D(h:RaX(#hGH]QmU^t^5xqE@jI>Ah7,nB=@NxY&Sl:@T^-#,f1/>wq7Qg7iSQk
 T0i?iqfIK9x`USVU4ZQ,_mtc8m@)BfrK2OB&PNkA%F/hxRq>F?-%YPEBf6ShY<lW'r)oHH<RsD^7Adj%e:-6<+?Ze0ons.9D`5L27X)_dpq?T0Xh1?L')
 tNL;K-?uC2,fYL^vV6OJN[0n;ln]%^<^nV:-b+sqrb^2[ff8'tZiGe5`BD#%j:gK?.#DP.@3<qp1Y/bra_t6E<KL^=U^;B@=msZK?0pWVK@@%c3W#>ixM
 jS#<jp<%bg0b9S=#9'tI-4ts#[]s^Lu7uTI:0YGtL2`nf^>JCZ:+65'-K6Or($@9Vv,l:hbIFWMox]JDZ#dBj4J?0k<`M*GP-=v,v,UK*qOaK'g=2Avub
 8V`QW02pML>HJ@p$03l=cA?I%BN`Vc@cw7OY3tcV6I+5%g3<pEK='Iu1V$>gsd#O;;p_p`917BL)T;ifK[0cXRArme=2o@QeX^p'mXQ/>ofC2OmFRpM+H
 RnK[cqD]#9gJLCuHwbP<=KBk/qD16wC[_Iksq(_;0n4pUb_w)aKE`ia$Z:9$ZZ?%S]^5Dk2lkUrpwonEd*V6SGHiqsCs^sPMiCF>*1vY6wjka4wo)Wxbr
 qE5IDI*3QacZZbo635ASorSA+1tpwFU5JCj#gACt4L4JW*M-k$^txtkc.hx6tU?aN)>MBQJc198]9WZQ89lT3Rtk$hsZ-O@.Zb@QSfOQ@[QY#)Q_)/sUF
 (:(7@1px[S+dZ#/(wPUU%?_0CRct^dV=8BW^QE$gsubKV-lZdSr]$A0t`hARsK<aEd4#^cSuk]T'D#A8=bW,a0cAD2KVuQ+unN-4a8Ua>>uj_HpeAqdhI
 Ok9&xi?Ce0oFb`I?AjOg#.]?X[xZ;4uU9bLs=`)=2M?BL,xF6;T2Otk^oOZ0=>':HvDY)?1J.),]c+US@<H`foL%x*+.OtUd595dWkX0BdxsLpl9VmH3)
 gSN't=OV<]2DKi>Dq-32i&]NeIhPBTM6s5ZgkUqOtKZus?^)jt=g'Mh`3`X_iCa$c>j(IP%R&OM-@6_IofkY]Udmw:rJhM1&L^)=>?:-@+m^pH^a-c'@9
 WN398+D1JSFq.c+r`c_6vqcFfsH>=$*/Tis),&U5j?KkOKe)I&xcflj6j=oKDe(54crc&Q[V,/7D23=Oof)AnY4/bcY*:AF7s=A+Jep9^9[q)*2[GWH%)
 'K+j/U:vrWx[j6Wre=N21fiF^j2Fj&'?9B4<YWG32`g5KX9bC6hS-AQ3<B+<AX:X;CK,9C_/P2:GuC/N=SaiqB8XIM>SS.jRX4mH&Vt0Qxgu'n2;4V%?2
 *n.eLqG>J>wCgAbB3Wl=ZSw-1Jl]bX0rL%N6><.&T]N^^HiHsmt#cIi?pD&G@d)5e7Qm$atZ[)D6Nmgg'6dT=aQW,5#H>ZYDq#j%Njt94hSi0Z$.Yu0&F
 eMkj`$Tl,+1MD?=0P$l.FZ/O2[jjUU=:[r@4B5hMC5O^s9?n7tu6qTvqC]eC6Ccf`w0=bJdGIEO9H$;?)(LNkX[6%dh*MA=lUJ/$/^WG%t9P4wrrb'XsO
 :ME)nFIZHpTl6._aK=Z;qsnaBchFMoo*4$1i`Pf:igugqb`tY,3r+o2g'j9.nn)?o1YE],+T1o2,r,787<9cX]2Qx>-gs6#tMX`4=Y$F80.sExqe?Q(PO
 UUEY6r'/(Q??ScHxQW(C]4c+`for0,iFC4f#.,Miu^kqP.%=/;IqeW7IrEJn=xl)<=7GG?8`YWxbhl7MAO>0P:2BTd;N_>WqMNPk,]W+B>$@%XfnJo#L*
 _kcG*>jVLJTg0Qeq_V*%R%=R5jKiIU;U2gmW<HMNv`:2=-1UH:@][*_Qj`P)a(BjZ5&vZNAm,Uiu+ZU*I^__V`l/C/rBvuvdhh4M7rx9jg/ihQN<1^]_[
 `ds-@%2XQmV2.GUbAHw,59Afo'ED0F^#lvav<PJ-#,HPZop8oQK$iE=u1CJ6oAa+B+gjA&;P,bdV;>;46@F_<_XQ-W^5L3=wc;:+#$2E.Ou#ofPjf$FT1
 Mx]E^u+@CG%W?`xYQ?Nj`#s[9j+7S`lh:$uq>dMDQQ<?TMxMc^2N=7iTC[o?lC36Z:xt$jJ+%WK-:.<&=4$$1cm3Ifd'&6@gqqHC9bk?r`u0(Y^g#ka#c
 l#ibTG,3BD'9()l;PI=9_FUkDr2&6a-gwXXU@1+GmpT$&FC=1]L^6u4-rOTnadae5]2/><ib/^4:Hij4-QDM@r85NP7/f00$+0ZFv9X7wf=o/.L7xeR-1
 RMe'2Yn%I/FK.&3&c9L4T[[9&f5bc.@]sA4?^p7Z7_ZK_MZmVQ.8*:jF[KaB85dO?%cCOK9K6lilar#WkJd%)f,c@jp9d4K.93ZPCIVtcJ8q2UWctP<IJ
 #S<<6%QH2E?tG-ns&5u#0kZwj9+CPWZh&:CEGu>_74mj@M`bY_PVm*`Z.@o9W)w=W_06F#ETtew+gXXmx;Ynvplj16A[MG/2e^38up=dI@ApVUd>B(<&>
 <*kQ`[muh_S4HIgCZ(N0V4ueDfsmn:;G#x-`+J7t;Dl1c.ax.O)WWXL7J0ZPP(4d+@m,&EHtlVh1p/-)Q7(JEkC5okF70As]R%&_E-`rK+mBB(@B%#&s8
 B;i-O@(V_gKsqvZ)S**5CJ0F7#fL@W:3Q<pP5#AsdLJ7b=L&ZTSOS=_jq[r``&(&9+5(<awI21-m%nGS=g_eR6(OaX9n51xP2lAm8NmetOL$LNEcnwCNK
 V>9a+%2R?Ud@h-A8/ucf:p9)'$@%9,pOFXn%k=%vDVZ:]Rc'qe0V@=t^[kIFG'tiW>I:A,3?UbhUt^EvPFcbmpZ(=G8amV&n;HtH'q+k(0Qg_GUmqfQq%
 5A)^.tSdVrg=lv0[q@s]kI3PB/FabMZoaFIlR(_'TZcLamd>YRbGQ*)BS*0GU3DewcMhFCM4pIVlBJtIC*X>*5*g'QgFbA5T'cgiBpvK[w#-r]s4j]>;_
 pH8,EvX8eJ@H>2BO0OX8N/[9;]RvmxCWNffbCV;fZ48u['H-XRSN;M(f1Eea$WSZ3l;%h(3a,>-Z;[50v(?MQ>(O+21:7Xv9842Z19t,[a*-v^GSK/pit
 MQ9ILl,X`cV]h]#)7_Q,Ri'P7Y#ulB-O.S(IlF_0JKns[f+[[6DXa,JPYxMtRPTiPw<TQARg*f__UJ1TjcHA5#ecRU8%O5XVMD68fpY0L[]DQZ]H5j#AK
 5x$/3M9859Jh*POc9T-K?$;r1P(_5Yrw+xBA*Q?,nJJm3LsQ,?`)5aA],V[sA(=PoA_>2TheW'T).5+k-)]2,%IAc3^Zm9u.CNDmDC,+AoZi%g[fsl6?E
 ((+[d/Qd_CJBSlD0bpXD0M_,+S8Q,^G]4o'^iQaQZB=EU7m*,JQXTu5mm8$A/6JYd_1d5/ns#t,l(bwr=.sTtV)tWPo8,tU;=Ua_.$+c,#oRANnZ)n)ZP
 :@U*T3@aoFW1QW:oe/'7H9-&qHi5BH4CN(lAUlm<>j`U2;uO-PD[/,xiMr$3r?-$$</U&a*[dKh'P>q0Woe%V)^v9_L:de-f)a&tf`Zu:O=f4=vdh.;nG
 2<HOR^<^-p+2eH/DZtS:8cN$2'OO-c7.n?Kj&j^nAnmZ(=e+u_%p&&.l$@Aw^Pac?5R$qhU%[xSHm8@6hh'rRQq;vhHRZPJ&K3eGNmg1[kBGEOpQ#)+^U
 UjYa*u=ba*rs.)h$80<+vV%?4q4^o6oi;3Ku:Ca^&5*P@L109j<df)OqKk9G;nDn9.vrFWC:x$(aU'0`5e4h)epK)9Cm/PF#3JF28Kd.;At9/bMN2asXr
 Tr+Sq8]G)DKA<`4]uR),<geV+XIFIV8<hL7Pp=DnLxnJ(p:YL2Y%`&3J'raQbV0OIJj'/(;Dp<AG&rD?fDpoD$7ihGs$Y=3cS4_Nj'TuPFm)`o<(W8eZS
 $VMPd`UqAP%1gBv38xTmk5;v3(%G9AWlSLF?j7f/4(ERZ'WG]e4Jwxuq-G=2mH#W249^L)4+JrCipIdLajVJ1JNY`[PW_nK^jak[&p'U0a1:JZoa#_VH?
 XH9n)G;f;*K)[eg6Ht:u.qp9]Kx`q2LtPjGf9LB`*9TqC%D8<`4C4L4TH3N0`9JhQ#Sg;#eo;l0:=viI3X-^RbnqUWeqh*Nj0VBQho'9_J[.>*Vq6`v1<
 md>u,V,3Eq@9C+6W?CHIxCODH2$ZsL+9(@It2d@PE$LV)7Gb6@$U0Sd2U<[ee(`ssu)8mcRgv0*&L;Y=cgC/um@(079NL/Z$:$<C[@cQbl<r_=2g.W`g7
 RXdL8.*qwAZfm:Gf@RiYB6kLG?G-et6B_[GG?I.3XLvtkHD$qC5TLg<N+q,)dd:o)bDK/@eQ9O8#@qDLI+S#Fp4QBq64]N?Vc26$lZLhtWmUb_xAkAUT3
 t7b@,_<3$pv-VE<q=fSuD20.9?Y][u0YU6Z/=<DXB*<O>R0)0,AAiBi-IJS_xX6L+mH#P6*.2>gjoU<^-solTLNVw5q?t+rmpKaBiA#'MD42eDk:n,=3&
 I]525aW*.Yh%U_U(t2P$aopn9`>UxVK$=wF@Jta)92l<HDPMU[=[ei:[fTcP6P$$Do@(=V9crkxU35F%b'2bMVEsJ]C)aVX4auS3Q0h'3@BhCWi$X*RT3
 Jn$b:+rx;PZNANrDXu%>]g*nASARTJ?s)7cA4n2.3d/Z&V('6uSQ/=^09Z*seBpI/fohXvB?)37x[Yd&fp1rF_d*dZ*fw*IA<1^*LuD6W;tmNQ;:kFH3X
 ](o@.SJQ20DO+R5.R.-_FN.Vlo9'd$5E+>334YAY9eJ=w=9V_fqSiWYN8DllURVLND=bJL+OcNO8m#E#Y,nPpaf0aC`EeJcAI8lXD?B%S?K&4>f$(Ix>)
 =;6[jX;W5]IV(*T/VDd70CogE>d[G8VLXw]@U2m(xO5w+s#pgtLb#bD/Z^<imkP0axxV5AC%83lHh-c,SD]Vs70JS]/qBcP*Gc62$?xt;$C=TT/>U0+Nj
 w<9`8f-$k`wt2g>S=?53(7&$dQ;c>?`B-:GPbWvgn3v-<hB>pA'$p9kI#FG;;7dp1H<QjoiNE<7&UZd2vId(2^rVoU&R/h'DtPofcU8lPilHWZR^re+8T
 Nu4pE+I4b])9?A8gfjX@>40$173&L'XSPC;ir1/eED^&d,3=MUYv5_NJ:B3Nt.WU&3-XMB&&1bYi,4vl*]<MMrJ;UlWnrZ/3wum0.6E)X_Ik5pi[Kj71K
 YbIU)B[FUi:5UC4I0_;q0-j?Hv1sIpc7(R$OhAC1)8cdL((+4P%0,1BKPN1_1A3>U,rQgm.5Vs-h:EirQVU>MnEBJ)$;ImX(,,DODscE+X$%XC3XRjklk
 8DIAQK#=tIKUL_[@)iVR/u<4Ov,s0toZ[H%T/IgYw:Bu_K&Tv*<#<aeKDm6q,bW;jP9GMgXK#2CpAXUNj3qPD4ES<wPXhvY7LE;TMc^5/o(ZpO9S#g?GA
 :khnk[OaQdXp^/L,XgV=LEgl?G:O%u9b0:D*ACsSfkau<SPOboCxQ<=e$2^k0^Au5mRwmoKmM0X'5ZR$L`PGssrA1%)$^Ob=C(OuHgn2]eYG]smX`Mn#5
 'c@b=OVf8+3,KoPCaY<v'l7ux$L,-$2:=S_mAEJJ1k4c`<6UsCcL2[JXj9+)ErQPhq*ig#.N/(2NX32#mL=AdD[4>>el4>_S=XsXd*55HEW(Q8IE8W]2&
 2n5Br'=e$C%Clbl05_+4WPOi?VCH)ulUX^[*mQ./gdf@>Qbfj''(`_,+4xu7O-^E)BDr#r^SQ-)s=x6oQU'tgDT(:F6ntuZ:ovf6oZP*L&w?@MfTn')ER
 '.4*$?]C64ZS:2^Yi;Q'NXWWIi>32p6WGjLRuZ:/duIcSY'T`V+L%2%SlVCupq01EI<*TXDf*Xv+OWBDpA5,#+NjB1nCB<B9N69u9rDBRwg7@5jfS9IKO
 CUiVJl<t??#rL8Z84MaLL**)%IQ]87+ZW;^,I[Pm7tiGv^?3R%'UDGh-I.DNx`1.;X%j17@8pnV:V^(O5,**INHbCh<N`gG[RLl&&S`@Mf*%hW*[Ch,pn
 &7&Vod(F.$MhCoq9Y&B[@/$?.&,9G4Y7SOCKv;WrW^=lOJf/Fc?l4T^eUKm[JF%QD4u3?B`oPD]0CuvlTu%F?]J7c_#pZ]*SkN#$)F0,ZVBHG'qO11T]T
 H(7@Qw'[_Zv7Q1:ffKPedssnE<dd-fiW.Nn:E8;Vq@bVa]/L^oc=']W:,0]PD>Z7A5LepV1w<m@j-43`Y`,040c)i[oI)?Y]0,$P>#3s*0>^Nm0lnKRBk
 94t-/&25:A&s/3rfn%n`FGOien0/nRK#u>ohl3Y%tlC_]V'c0)`4.q4&KOi/FO-,r#-k8q4cr)n)uH*Y$''Pdh#n$0as#a9U/_qTHpN#O1(DuHkYW9mZ9
 ^%(4YQp+2=dgT<io&G<5Phk<S)U[^n9.M+,L(&=e$5,)PNl#CfRn/$)ANfW(sGWp9^Mx^fb-w*/Ha_eC1)a*?-emd((>C3ej^C9.V6N_g]pY<Km/=qtT9
 csT82nmjv$xmsnW9`t:3xQt]>6BS]c:/$#kv,s0L`KWLv^$c4YY=x$WpY?je`'Y<%A,8pcDDaeunR)2pHV_bfp9tP.GVDh:OW^NXZ@=6AHhv&>Lgf?];$
 I8GA+(`/G]g5^%0M_6b,Uq7;d?rsxfb+g?*AAZo+9TiNWie5$:=A85jjvT,LMqWF4M'3$&xB+q+mOu8EtZUfk6G(IhP3Y.[WifCWr=SlO,p*S3PITd^NF
 e]bOdht[4Tw^1SC,w#03^kFVjv):^]&`iZ^3D8$.H>K&)DA8Vk<(WTs0EI8CkI]pWv,T<_D-1=/DI022hdqWRImRacDQiZ:cfe@TE:Q:E8T/@l?DCT]XH
 QS9L+&BDQUG%Y$*i0NIJn^AvW:7&t'C[lb-0W0/&UlI,TBS^o:=>i<KQrO^wtONxNnG-5-TdEVYHVox13fCw#$4B`8?WB@>@VB$1Z`TmDcR7*q]527TC-
 FNbEu(=kHrNCRT,$Ok0si1-s*VQ86,Z[p)GbR'ASb*u,(DoVW`7lUKBb^MYW`IdCOt0st)Drlu=Wl;#nHj$0ac2O]#nMi1[2iN,$mqD;S,0/;<+:$'h7>
 /k1bLX)*weWv34Z[)xk0Km#TWL(qq5(A&AjmT`;V0KSv1$c-Lmf>,r?,HYXrt,]OHc0pqe>s.N?Y;[*?=l4QJ/3s)#>1A839CV*e>T[cY&M&uJw40NhpC
 2AGN2P?GQGsksX3p=bFu7fGQnJlpGc%dnja1S%PMB]cTSea4N'988Jd2IF&lO)f6E8Z@;^F1VYHp&47?_W4T29pdpCZ0(Mi*g>p*A_hc*K]hC]4r;#rcm
 l=98TV-0s4&r7+T>CWK0s@,2/OC?2NwlrNEGSC[p,k.N@UZ0;C).g4d1)$^PB',']V9o-hw0.4H%aaG.I]I'NYGWACXvmdO-%a4'Bt_iEFYO+xIc=Ba]D
 [-%2qd@wi[ODD2GXi(#8Vd,6>g1WgBRMhARG?M'GW$fM+=Ru-lRi?FHsuiI4a>Y*@eIu(,>iOth?=eaWJ6q7'3ZRFAWoKR#BLpge&e)%*[6^Qh>4Z@]n_
 @?`jR:.U.dF`x4Q`SClTeAHrHk$w=/`-1(NPSY31.b+]w)cDjDiQ>+&FQx<W8]9F:_Jr<0ZLBI%$&q^lSloG8_I0Mwewv:h-58_i^>YrUek6?QjK7L(S4
 &f^DdD0/wcfuuMTr+H4/&lw8+LN:^C+,(S+AFK-C8'kW*rHB7*C`2fb;tWJ$lVx:Lo4H_-r$AYg(1K>THBx#R&+(nv%@?/ThM1..WNTYL8fOT.mGAW,te
 0&u91Ciacc-jD)HgK]xrowFLg865If5%I'W3F4[:ehVKPr+NJ]+(,09KtJ@)Z%'EC%:6`g@8rNN=&6_/vBw])D0atQj'R@3O;va2:Y5t/$tgs:_RhW4CZ
 2'r.I?9no0vXq4=U:'kQ=5LkZ(Q</;>wn>p+HKO8[7nBdOfg4+il#Ha;_u(_0hQErNU8Q7EfjW-&1&2r,dc.0fRDOij/k%>XZKj&4];sFTq9M[uu9=VE?
 u+(jNQ5+k%<c%oIY6n<%e&BM`kwA47Rc-2[K<#$Z$JB12Cp56f=21+N*VK060&srW*Gpv0QU2x>oDHCbr0#_LHSTXiJ?M,OBXl/nc5wbj>'dQb10Ni-HS
 4O`YE#H:q3Qk@IEn4`*plhDn+@nNjg-@18b[7,._&-@@W4*NRM%)C*#A_.InecVQa,r'0m8qX%`*Y:/pAF7LRQ%naRg8XGR>H^0%<t#q_10OB[=cO-4Os
 VVQDD?85QLD$RV(TpU8Z6?MT0bc'76oSU;3/p,QSJ5,'EJ-mr*j&4#2p0wF[u>s4?1jDtH/I'mJ.0PM9vJs&r>%Y7e0*ImdbE:h&:Q_YwfJ:,kk0Nk/5,
 P)C^PlEB-BF';*GdQ8CkS'%m>2vvC6&M4Mv'.SKp&.j%]rIgI1l1ZoaQHM^9bWL2HDF_l6Vp/5k<T&IF<.XL]?qQF/uQZR(vjPI]Wt?ikgk*OIqm''Tam
 p;h2l^GC..a#jPKG#u%jSH<s`35HZ$UPHxk3?93-oi8%NCTMq(mQoWb]WfMu6IW7)kTrvcDb:k0kb08I)jTh81:^5]SLfQ8rFHsjGYa]6Imqdg#__-K[O
 >4BbC=-ld#30c]L`k)$R)u9/ecix[Uea'5';[eh/c8<=:r;9F4o`(*M3b.xGsTmhh#[A](_:Xq^;kWMq/%iPRmM<AX</xjoM(hKhC*nv8/F[:wmM,^,f<
 ]#7``A0F6gkeVEj$g1i$ow#r549,X`-6<6n%QwqL>.%`R.U^F^,R3*&]&o<bPm<8Cs)r+CH(U9[OqQXaIwVUG2%Bb8l<Sosr@uj6;-af<YmQnP<9x3C1d
 g%F[<uDaw%nGZuO-,purn4qVCkGDY;uD?r[0QQ;.&mM2;-VWnd*%/AX$OnntPCj]:9Tfhn2O7w'B@jh^R5HP]*BueG`)iQSi,(F?52TU_cmJPtYjKIc5=
 q3dw[)<gnh#<fBRXgP8'P(lcu<s8CDhY_Krqq9>tCrsA0GmkQkVp[gdjpf<4)qALC&;<PS9Z`fQp,4P^PLeDuKm/1mNu;wb1fxk33b4#2Pvr2'V)HoQE`
 E]WA+UQ,[c>%+(EceSM9tim=X'5NilEPI.6M5sxDh?aA($;tZTej<Y%IA-&%[/4>3i/0f8mb]H<7(Tcjd3JNrB]kRXP61;mr]Sb'J`mLgksUGod?f-]lm
 m4&KNYiAX6M.,?4=n&wtF6j8d1vdk4tmVb&iIs'%9Bt3C3k5S][8x6pW+$Ni`4856**,[g$=`g'/0Z5]LE*=Dfw<YdR3xorMf'hK[DC.k6[6F@oanC[0c
 0Av&S>9;Se.bccKhWMR]`)Sl2W/wk*9K=dbrqah1[Xd0i$hG/DmW59E84/JB,Cm@6MVhJAv@`<=w6/bcR'hX4p?n:aB/2<QTn,v%q*VH_6G+HFT'e>g55
 </IPYHL(4(cPB#kLu#'Du2,$A9A/O5x5;6x5fD_@>E`eUnI)hQL]*%INWSZBJFg;=:v:ULqpBodw122n^+4JnnWo(7?=V7/*d/uh+GUJ(%uWkf89?ZEH,
 pDt,&O5Y,&O.)`.Oexr4)Bx[^TV?'H@?mV<m8NDkq/N''b)*JRUarqR.-0+sZH/?c.E(qAe;8op$#D][u>q,/?v%*6#P*aiDO2_I`GkG%V3;1Jq%GX36t
 6NX&t%d4YBrHkgaT##VhA?qOR[sgcgv&Zo.Xg<lOC@PTm-Ir?YLh>CWf34Cs&Q.><5=uXjZ5'e/GOG62W@6D@/oT1Sts`@l[k2WfV4KYbKA3?Nx>nUpYB
 ]*X.l&)e3`NFs*9AUU>A'&K5<Ev0[Vc^6spItVERql6%9CkgK*_wJ&ZY;`Cd4C:RLN73A#dp@$3Cf,<P8AL`kau:BVZ/PD=IW-2QF_-Y(XoCKb_Ysk`s]
 n4>pEIi%+cMTOCTRRfX^e,C=i2wKAAO&tsHiKc@]0llXnWWxm<UDYi(+@Kp'/9+^Y0_&=G9P7B,M:a4CKSYV?X$i/Y`k0urd$,KBl^)S,DVf3s/2sa=1N
 XVo;]82wo&DW6iCDfJ]6tO-Q5/D/YQ=0xiwT'crFqLRsr)/st6UJ#ncEU1KTS@XxQ+`G9UFmEbhL`kRZls)x>'<*3U=mpPM_@UPQOd/hirIn89fDp,tZa
 %-Ik]?@V0Iu(hAo^4n/-&BKK&)bhE[2I9I#)=>GaLl_+Xp7-'6A,`5=_ZGo>p6+VJnQVlEgNT)oQuE8X*;xkcCbVMuX.dG=>wL553'gWL-*$(1h,nBnAJ
 1CV<>ImL5?F+0X96lYVLE_,;CwC1^0D+Aq5,Jk+cMr>uLv46U[rE950Lc9.q2q-Ej&w)RWNVU70V1I2;naULQ`F2]65&W[g@>d2>*5RF'nY1#G[6D9LN?
 B`lGb^J@Q7;/@;dYOpUq?T3UYa8N3MCP?#k=b)_dafndb^LTtikbF/1n:1jgPHi$eO'$+G4&gi:n.rY+X`UwP05FBi-H=Q[S`FbFuOtJ+=t2NmqjGx$I>
 c:[XgB&bL+nd^DnCPYSb[NsmDU5OXl]2P=b9NEqTh*h3-_=kd:os8JQKqwCY%QgTBSK]4A>>l.];nm6WMY_]Sl?w15uI(QGd&+ki'p/3:S=ui,B4LR,)k
 nM-OJP83N3fs,b=;.;kfjH.UJJkx5Pv($)@k'GwT^/NM@O)eC2)_+&u_BEGq$2-j0DFld(3Belh7;F8xJCVh*3k9>_8)uWu[S0kQI9_lY_?1dr6ufWgXB
 3A9waMT&+J5AEQEd%]&@w6U>*MNu?dmXn3bhEV=ZGNp3cts?M8wY[dBmu[%V^V169EqjQm/5f#0)3]s&E?@EagpJSg]t:+:q31&DfQg01loU2[cv#w]i3
 e<&l1'Os/BF)#m%DhlV+.k:>G)`.`TlE::IpoQJ_umR$M'$1psOM.)gGd$L=X3op3P/esC?5b$CAg2t8<VIsVkC#^V:UN_2uGTG88kaxI4>dZ.f#KY2UQ
 @Zd/3@X]G?Qt:p*>`bPSt7R@=V1ekXRkRoOp7^@0r]W8frYwYNHCUCsBK%Z?o0FR=JG`VYflTSK-xDM@M1Fd>,TjxeTNA4x[GoX]Blt*jHe44gGfZekg4
 W96R]UP,mxs#$6dM1QQ^(Y5aI8l0<%B^.L6QpWW9T]LDwRk<R=p:$Tqnp7/`^dgSSX*7.0;GShoj6^Q'BE@/=-qaTAD[%5f-'qt6#b1%[A(4HML6)@ol:
 (UF^$/Kc[h#NfQn&GktX.&es>L5r`os.[J-=pvu2ahMaoqs86<(pC/sUj$Xm,PpXQs*%#c;T)H8r=Hfd%%GFYC*Wro4Vki=*9-,IQEI@Z5KII$.Cv$SGX
 dR^?X^pb,-Mu#X6:Z@w?F9)mKOwk:<xAhkT9`3G6SKFgGjx-+keLuUKSO(,5<3vAt@D=qg(f-Dgp*M,MSptie2>5aZXcIQb2TaRfxne>T$M+XI1SJU51&
 limBAJXRvMjj1S5X74Jga?GW*j6AONf+T*/=eU_Q#bVR<V1M`W^N-lwMBgI#j/cHEe(QC_EB6'jev]6@PQa:=4ogR`'4RN?U05Z6f:7ptb<Ie]Vw?Q3:(
 PueRCSu@<1ek_^8tk8,P86I@NLc+Xt.peq7#wo'P;JxXiERBF@LMl8@cr06qH>rYUGhsFw5+Q`3>iuHhqlKEn#Ln5m5cnf-N8Kg+LD-/+J'a4)(>`UKHO
 /fBJH3,_hRZVWP4-fXEaAHg;D*lo(Vo,H.WDQf)U;*487aK_t'e*Qo?uU8/@+oHS1KGFD(^[5;,b+,B9E;bi?x&'n4T`nRK@-1D+me1NYcFnZ)F8Q#m]l
 =,Ro$1pcZ#hNBIOwpEUGW7d1wERXnU.bfAS[10>cPosovUSp]GBlA$=//R/J>&)q,(1gA<u5#[;CemuYo)-ecj#_x1,^VHc]5`9AukNJ)[k1jjeAvd?;p
 &>qjf6G]u0FP;bJYh9'?_#8gl`w@m`pB@h:pjFD_:0#__ubId;[D&3S41wn`7b&JB^@Q]hV[qTHbSQC]Z,o@)YVXI)qn5c$d:BQ]wJ9Jgf)mhXxt8[O?k
 psf&3nX3L')QQfo]v,pq)$h6.YSa:'nGp,j<Ol7A5^GnZ2r_Scda;=e0/$o31:HhvHU5Xq4p*mW-Kq.)J9Z@Ld?att]1BlxuMZJ2J_Zu]?`/e@ioHJO7Y
 ?h'cFXK2Jj9^&#ODvfB)?VME_$d_jRSHs6DZ:YWcd9;2mlSUNtkx;f,7ORo'-;3XmO[T3<@R`x`eCotE^P>X*ett]Y2]Ag^Zo6vDmHvmoiQnjx5ZC,uq.
 9l,<D^;pDiIh55S*WCb>:14*Yp8aV>^G]kb]ew<AxWWL@9;&*P.I58(22,)x']l`Q@K:m`G/Dp#bqu?#gxNE%JZp4B?Wh?*%un;dbi2>95F)gHXh&nK)M
 RFp$TUMnQI?[?5_;./u$&%b3FV>hZ*IrP/cM0nvq[VnAgSUMkUT+[`O=.-SVT.dm_b&v^wI0T?0`5o4Pr%%G=kSo'k@dA$nsWv,opR+Q&[*L4FsAfpa0#
 Jvf(p;jJC$-.:/g?`/IV7==.?=V^8EJWLB^AWAu`8T2-sNu*VaOZ_,`?Bl,GEXWolB?dHUGeO_X@s4R*Nmq==NVN7aqrkOv8pUO4I,fK:YmFwD?=JP9NW
 <4CZ<?r@1GrchZ-.O(#wCvPg=BXH5Ql<H7>Lx_aCM$YOYMCKuje6Q^A>Veq`l6SxQq_V(C;b5.VX6UYTt;Mr8u)[U(JYFM`<fS0r<jG)hvSBE9'7THkBJ
 ]eS&l)[Ze*r(_^VJ.ZKDVn*7%b29FI`nZfMo`Mn/b0eJ0)`r$KO7&>%EWU&E#I:&N[$,>@k&#W^V-0)%_>]61spSVPWx^oYU?UT*cW@'=l%8:.jV@t,3W
 ,h_#Wl)2E1GQ(`a:rhRIdI[%GJmauVtGC:W_84W`'wb=&fkFcehsMr<xmn%As_x8TqC3_XmOI3UMTVujMOl`@kpaT]hNZa92KZ/)#GDhtG8k&/[[kS#>(
 :&$7h$5BKD74OeX<fG``9Htc&MK4];.qtO@hb/3xFYsk.@pGIf2IFTC@XH0T@ZvYdvOuD#R<%tN52h%']/EW2M4ga4&CAS<Y]@X<bYI/ccKB@*gM'T/N;
 hsZA1QbW__^-0W>9+<tlMUa:]Y3l9qNxvXL):.EClUUdO;STTffWDI*vsPad_2S4JgJ]ZFPrQq^tpm5K]o`kS-Xk]f#0CI?CQj;*.nM7-`RARRDLHKICd
 j_OpLc:oAL,T`5I/R':6Em=;t^Wdx20ZPchP2@Z*U4YdT,;KSDfxCN,s04(b613nvwe4;*d->bEf:9]f'8)D7iFN@hsh12X1SH&(nfM:GNw'mQwi:[i<]
 lOhdH$C*W%1K#Lk]tjS3dN_%h#7.O-1S]9enF8OWQ`;qm>5FbxUa;??5xckqh7,@g-pJ0G/es<#l6*HlDbV;,]^U:4RM$a>oKd@.`pW[q;sap#u1@Rnra
 b#0E%N%27+ke/YeZeJMc;-&:x,NL9Zp.qa)>W3+CJQpV_,xP#hkB@+6?RO:#EoLb-<M.Yrd<NN5iWuKkH_Wh3;We8]Ltt=TwBC%GbcCZ^D4FApr%/]1%d
 1tn@)mq$/fP[7c2=5OqXqQ3ZsArJO-I%nOAh8oEAHmfT^Z.lDZ0b-n?-N[PgJ#j0NS2'ehnnP>'2=;dQ,GP^udkhXnja.)g`@TkKnEQv@3+T9oSV[_TAa
 F9Ub+#Cx*JoQU5H[4BpNb+IsJB5-crCK=d2'8R&7x`+^IIF=#/3&v(jrVEp;ro'I/#^78H)wTmg`to,)a?BcAO52G:]f&W%R$0x(-)S:h[5EdcYs2SUlf
 ;)4?W^Nu7L>t]F<d&Jv_It:-]_'X,u-%DIK>CKJ-)oVgdu#5QH8L'j5IXWUeE`m+a)Qc/:GCXsXwv7Q=7r;)?p]*bwA#MFxAonOKVI=6_TMu@rL><YxSU
 P`Hl7e?a/okZH[fThGhKQ/6.bJvI2K:,^YnCxG>dt6%+QV2gq^,QTv0,hb6gtDhV&O9'B]f(Qkgk+<&/Z#NV?ZJ)lL8=fH_>Gn4.5K]';9Urja-='$MSi
 `W,VYd$#'dGT,Tjsj5><_R??L'>WUp*H[h#iY4CRlZ`IB?,k:#](0FSv-P:us7RHN;C=;53G)hoRR(Xio/;nl1H#5$e@tgaG2'eW%Y&?DwY*T97jjRqT?
 ,(55cTf%Z_oYxj)FPRdI.OhR_VDPA5+<nI.FkZENjr&)bHgT)Hq7auwPN4ZHNk%U8X#fDG^OR1=_DUk08W2Pbr>@o;J,HN/6rKr.1LDKaGRmJtuBW^m'`
 0,$'kSn7f].PL`STvTO*[5gZsfoXW/PYPK@62tH#NvRa#MPpJ7n.kAIPqWJe:['X47IOk7u8:=N'K?6QkA+TUW45WV)CUE61tVXm$H(N^h0a58SjjQ:+;
 ]O<lw$A%r%90D.osHM<2*N.rYLrfT1NQZRHEM*P@02l:I;j]oK)IJEsJ00l7G7`rTS;]4eBoV/M-5l:JZ,Ce'2p1`=WiSJ6`?V0NYjDZoY6lf/&TD'BFS
 CVT&osU/`T$>Yd%$(i`SO=Rp_OO31]Jw<IC,]lG7#Kv1QW%5T_mY3p(/)GlF[E((hM,6VdW)o6WijYTWZjXG<i/G(S;t]<TeV0%>l0$dFK^<@AWcNd]K5
 nUl7Nl*HrE]LJo_+*L_6v?/I^N2]h^xp>NS77ZRF?fD?6*D-L-%qb[I2*ONX3dF/_;5^m(k7fifL]3;1>T.7nX/O15UNvb>UUA=tB&Pp?Eaiav21v2_L9
 ml45'^5T3?[mdiPuCnHd7:xwc0;4biA;s:Dn3Z.rA10Dh/p<A`,#8=bTpvp?SD$.Mn1B>u=3)4q%$^7d`bWE7<XOU5i@)fFX>@]XBB:,NT0-c&Wo3Hj/B
 f39AD^L`ohxMxw+G%v1@YB<NXZDB99=fD@>c&AXZ$1Eq^(]`AYx2FHOJUi/>oNXJns]qNOa1]o;^1+P`(e>2E&;apbfwXs$NTpD6j<^ThhD@dW,*+<Z#_
 o]<n;>3AJa=0?H2<O:k+x)52SVLW%shuf>'E(/0aO-A_KJWn_sO$TPb_KtJ_8ueiZ_d_L14CZ=KeSIbPa>:c;f,@K:C;?J[q,5%#Nr)$t&Q%4o(D`u:L3
 8M,:%(`PFc_/T;$qX?dx.Bo=qdBVP@=bMAM2VCR@44^ll)w/1=R4Sbp;h><8'uX*6-+h5aT^opqN[v_<T0`[C.ho7;ZbA>^45rLu9NAQ(Y=6lk<[VLX14
 :YS_*OFwdaLHwivL9a?q-NfihR;w(?k2Jd<<-3:o*E=f?E58>&N%/5kZa:r4HUd^-EJ;rI_e<$Xhu7H2vvq4*%cm=p5]m'<Vtam[7@lYt06b)*i3&DD9v
 1e<wtwv'F^?3@p@LLpZh>%L56pVPo.]U8svRmq+1PpZ_cIfbbCd&Pm@NFADt#Tk'%=+6.wsobKn)&Zo%]NukEw,'46j#7?HKb'n<SP-9w;Z;u&a[q4F`O
 ow,jA8q^Ng'3=-C'YKedO?9#?d`a.Wb.b6<FM6)m)EXwJ-Z;6ab2S-p;]dG/#>wZAW62^fZUHnQ?(0pJsP;[/T4J7+UuO&d8S-rcpjm5DlQE9'G0ASIhA
 `ZRfp94Ih2,3nwdvY0jLZFDW;n[PHat1tD9BlgIFwB(+-;BhPm-pg(t_g,nBQ1pVQJ_r9Wb1^bJ?I(`mQ_7V<;p8nZ.6Ma&fd*aLJEV[2ODSD9ZpEVpP(
 t.?i+%oF67_w];GWt*AFI7[S@OUW[GaLO_a^;@und_(N_c%c0rHHuimH_(&=Vh#)190q$E+,JXJ<</^DJEDxARed[.RXY6`98t(gOi$n:.kewhZB%v&+9
 o]tO`o9tCUcMa-oE`n#L(a?:ko7RjgJCuTlqJ]ZBX%WY3tg:nKcTO9asY2JLBa;RM'Lb#bMZVZ`W>tRtT:I,fXOm897%k(mTUlVPMTbAgv,I(9m_q$klh
 +Aqq?5RM$m&ug21hAot;&6rEdx[+.A9*m5SP>?5&n>8<1AUkaPJ.I5T:5EViAXIDFnDrJT+X`(Ceu,odS9%bu'+6xBwI+r^g'+.oq9'RK`RiN?`nxE7p<
 T5*Q6H.f%M[n/BZ31aL[5wotk)0M_MRNlrB4A`kC2T-mLlJ?C.O7:%$<@b_6>nFvG>C9CWMdSE5Qc4J2I*d5%tsNHVgH:7&1=<;&(/Il(@<GvPZ%j;G:+
 BE'Q_pJQJOg1/7G=7=Hun_Qt*?0%i(dC]^>92)Vs4qGHp7OMI$kG7q_lcCwS&Pf/>-9UW2`vX@$SgE2_%3-%ub4K&G,FrewJa&L[IQ;=V57IEa=i)B=$/
 nXeb>ciJc*DiVRb3HUuO+m#rfi3&Sh@'/Pn2Q`+W&E^;U?^<lw3T]epHN3[PK^m%W`2RU[4L+P63rH-qFjTQ'RL]lc)>Z8ZThb0rK^P-i-MGlV_n([a?;
 egVpKqIoD5P3_uFV29mwaQuiSRin,27>?OZ$-V%aSt5i&T[^nDL$#rmo7&N=U&:3tF%W*0X$:[Lg#(%Xp0qKr`vI)cP8:^^@')r><qCe/SL=ewE/Jl.$V
 xIt#C.Vqa29`n5Yp3/+^q@nvm2.f@?LKAarhVAm;5hLiBPfno&AMbnrjGQxNY])TxWg$-1X5NFk,o%2m=@oM1@pu$x`)j2_+LF.Khp=bC6gfuTCnt#aCg
 Lu,G?qqXh>bxn6MJGGp-)5Ia4Tq(g5h)Qs/Xx)hZxmYS=cqHbORb3Zg3w#MfC:f<.3=pSSmH`]h-PLC&kL7R`xK)mI7f;32PcpZB,eVF+]smstmbdP9>M
 xT^_;&Pa]5gV`>jRm?s:$?So_:Q41)Q7[3K1vSu29,No4)BL#5%Frc[$nXM;7f?9N#u1F354FnOf;6[gT__wjWkI*mJIfTr<EG5kGQ/:A#3oQ9_Q-YEc1
 t5h9*7Ht^Hi*]QtqUfnqL'CU9p$;[ICHoaF%cqiK)lP/whfTOb,BgZo;*6IrY0Al?gp;^&u7poCsHr&jv)NM1U-tE@%]lD?m6XZ'7mol.lU(4(JOJ'juX
 eBDf[*UhVFjH]t/$t(cYsgQce'Ew9I]p1@rWfZ0a,U(?+T*V*OpD?#l$cP(_s&LXjp_,sKN7o<Ax&k+(Lc+km1hk7SxK4F*Ca;t1ZOC#3/eAiqsWH'e[U
 Gl35:s)$BL)rr1fsl^BsV=*[7H2om>QJMWXL?o3+jhkZBglB,=9`>VIks*V$:84$pLu2X$&8$wT-,lW=Si&cFvuRC.M-:G;o7Om7@6#Krl9kLSK-[IaI-
 )jb8V;_aL6QYU*YvTqDhJZUMO>uBv1)-TX3pD3qP9mw7%'#vr^0fdxs@eF?<ts?Tj$Xti=hQ:Frwuv?R`dZhkOh^&)P^CIpJ@A(QD7;td_j<:kf2c-,KX
 k@OFA*:6(-Vu:[1.>b5Hr`GeR&ua,>q%CMY2:0lLcoHL2o8Q-$vi#5n<gp<xpbhh2(;hohFMt(1>n%>Tf<-Y9ChCkC&T(l[bhJv#nw^^Ld]fIZG3$SV3'
 @drt#OQhgw;d1nkMa*07$;4&>Tug3T&fXd47B?1PH:YO>Pi//E_)''^uIQ#3Bk=v5ud[apnnsF=/G5#e_[*&M+d=CUIe%c,Ek'T0d'S/q4HksZ&:3%Y`n
 m:Zt8OqF_HHAZi`8ho=VdPdk8nmNRV,]V<RC@7)iDFjAu:Lc:0Vcw[Q69`$bgscXPeJaUqY4Naxl-w*N2@QCCWmG*[_FkPK3BDba5-Xg2%%FoIUS/#@+;
 4N4_@,NcAv9#%Iqu@9cgie^Uu]l0:jkMMB1(DS25.=,6lrEL7s0=o#)aW=ikO*7W6SNxUPmYoeuRN'g5nB$3$].fLk47PAAY5ek1PIp1VlLgLdB/;t&S`
 ^rU_FnhBea74,#<vQ9a9tj%Y>`kwS/tH/B2(ki$%R0pCXp_/'Lk//Imq5>[hu8@PFr17m55ZLcWbH=c,#TBRjLjW:gu_vuPD/(2t&T'NV`eVh7[$A1c;7
 R%h/S`iJ&cBQJCMNO<pdZ4]^r`d5v8#2e)ag2;]SR-=IK0IWd@CrrwEeR@LYm#n54aH2UfuP@f7+ZbBb%xoV9lBp:E=dFXJ4C2o_J4a;m(>b%2P'_bBKj
 p>]t9s3#P7)1BaT<NGv,_L[AodWM;=`+>N&6;*u;GcIuXE,x0'r(B1UVnL<aCY,d[?,A5(Vrv[l.'U2NEl(OETDm:Jr&oG$^db7IIdCuL=-gF7rL-`i5[
 Nt3eq_c2/SB/$g*C]M=;D0Bg(-qm.O+1L3<D`4aTXh2tr0hG1WDv96RnI9r19jOSrEP-Z^)GnIdQ^G&tvH6LJNs#&7.'5n=dq9d[V,%1+K54.GTP_4.CO
 G&dsaq6lF$&6M+D:<]'cl,o04=(`09HA):-FZfXC(R.+f3,%YRL9Q'qrH*:AT+V`K_tgoWUJH>R$/IC=4(AmGcbX8'8$<)^IDT'/@AH@ht:+/'N-cliXJ
 /5llFQ3Eo<=:,ts>A<(<4s7d>/K@xex:n?bYT%_KvP;p+)o%(kITpqWsV%+h[50^^JC*cHgGdj-up+$8R3H<ankbUOj:$r1OLoC`9/4*kw6W-qVx#0sSH
 Fshk&Sq+bPt'6[Z3Fa0Kk.t1?bEC&b]99rBNrfgMT)-T3(VhU*VZOpm$DB7-bj2NIpVP&_d>%23i%7TG#2Xx>8Xjom%WLI3agP'arOHQ3]+_)>v>8Oj9-
 ?6`G`tCdt[oamN._)2?SGKNh`s*0'jS44U4ZA,40;pk^#D?rfI&:33aAeQFf/`EH@MDcH*s5#RTlPMRA931VH@R*akIj&D9/7<j0T2#?1h/'H3/1X;C6d
 'Z:_wJK]dP)-N-(SV#[d?QD<H^WB'M?6r%*eL+2])_v__[mT4g`+FY0&]RnSKwaPLBEfv'efSR?pDR/38qx%60rYn9>sOf]RLmf1PMKnCg).(KD_.f=6@
 $829=6>EW0WX`I0E-Jl<j$x37GU$*SB&`:9#-5fKjsE(aHfk*LSe*odXkBZQZ4^Z;B^g;X+;x$X7f;f#RCVbP?sLp$>^DV-Nce<7qs+6D:7n9t(DI[vTc
 ^iJZ:BRvu=8ukm'HqCac?nkm8v&8As$%V.u5O>Vcrr5&6f=w7hEo7wF*,Ku2_3QE+.,q7*)'>#LE?h#9=vuIR7JD>j6jVlrd)T+YUQfaLUND)#Xe8s]lA
 %'c&hS31S*:ZW8q%iff3F/M,-h9Yw2Z0?]t]7r/39UO0M[o#kna`94oCCsQm&L&+Y_urj#v,)r6I`oXi'o`_n(gI5*P]eXLcUDh8*(@4H($]7)]uQG5;m
 lCQKM50Nu5?RaGw1.EP804mSuqnTL`YucG=@DG<9NGGE9v57KV>PPxf=<,>bMV.XJA,cU_8=>uR;jFGf`:7[pILY2nDp1lU8QM^`o`#Vo*?=&U[Z12FZh
 m6-qpm4%T7)sa__(*RL1s8f@7IdSu=o5ek/B5mE<S3v=#Xe9gG&fw-_r8)*.,xSO4a%2*ZMitD6@r6ixn-5(7-g$KF)IajDL%kGfq*':fNA]ToLr[b4R`
 s,ghQuL)NaXj<%*S*(:CA2;SaU'.jdj8pc?2O;@4Vl`22ue7(esh9Y96)fh^83f>ttmJBP0pW*nqaU&T'UF&6)GuoaY+(T@8pPE8oTNoPqcs8L)WUj^)E
 R)IL'NhE2)n=`R]dTjC<VRH6N<NT3=#/XEP?5$vOOm;xI:FGej'0+QC_MuiiDJHpI<UFZZ@xRUI:mqfd.Phk)7SbgZ,*kO&d&i[i<EW_:8uBEuEV+vnSO
 )I[[$(U8/5Lo<<:1[0O'^4'%fHb=42?xrJK7Oe%ipHXt=Hm,c>p#9;N3V:DD:9]TtFq<lH#fmVdij'9YgX]Qm)(:7T-eO_3]Z?Yj,^#5u+58[DfHT<_4n
 7*+Zc^)g2fb>Y.lPc5-Lg&NFwVWv?/5o3.URA/Q>DVMQ24%`WwVux-$_h/</kew<ahU]ruFu%E4GIh>LgU+O%&X%?V_NGVLGc&S:f>:9[*@9Y@XO+<J;-
 $HJZ<S4kWdCGL4SpM#=$>>Drku@`A#o2?6-T0M_/mLw*gs2A&]rmft4MOXh(TNXApfq-I@gP^6_P@,rVq668:t,]088@c^#$jN9(4MB0DJfgM]`31l#1n
 hRFj;Ff:^?T_Sv#<g?QqCj;-Vp4-5,Wa%S-:L;tJ);xwqDI%QdP9VjvW&PmYjVh;Pb?'m@HXHTo:9ss7VN_T50[xQdN3FlJoo$J%-ic$rcuRZ&KX`kfm:
 JYF'4$F.4-D_-aXCR%?b3YN.cqY%x[S?l2bdj:h]Sc7ijViw^siwmtdRvdk^(pnR-d%ATHA-cX^l%XW96EM;+&vBs]Xvn:Qf)vJ3wL[0I>2VOV:ifV*rL
 &9[pi]pSIGdp?9B^Wp[+Qu)LvOd9Z)UY@whZ9SaMqhZ5nirR+MQ)=?.T(tc2dS'7TQ-p-Nv[eiEd8Hxt$6AlWrL/NE^/@9w)'9W6)7cn'+W'1eA1kP)fq
 G#Ua<mII^g=_82en5rTI0aEq-<1v5GWQmo3WSY9f+?`M8H9qiIGNcAf=*<Skl[D^*WC]P_GLVI`([@&EaiTET>A@%<WA^^wiFr,D/E1O$B62k`RfP_#0B
 #%DbP+BOuXWU[X7fpgFD2BC-wog;#x]TCjR#Y$i/_xm$-DIg57MO0]E>^RW+xa/VQul?)=Mh,W)c;?Ve>87k&`mw<xE?_p%TcZO*[igNKG;$HF#h9U2=x
 BH@i.)>)Fq_Z;*uI?ms0xXtMN9Vl6AH_5QLYYev7*9$xk3G9ub44a^YSKBZT[qUCD6C.[0G4(d7#2X(N>bA4R<$Y&Z>3U@Jt)Lrd$7v/8prroM$l,lm=g
 &XI4^V;MVI27`SMRmH<8Wk^_+,5XY:?eRU5,QTx[GqYf/qad*(^XxwssJZx:O]s]l'Gk%ekLDJN,Oh-;ed-gPVjEIlrGmO>3]gpTGS*;[jgCdOlU>R`o2
 [1IHx4G/CPhI3-H,Z=KIc'[MfP]B/XYN3Y=/iWZ30r9&+8*X'.s*GwVAUqc)VW--6G<XXlbA8aCxOt5(53Hlue_g^jm>qua1TRAJ<.1/6rI-A,$JD-_vL
 Lg3Rc=1$[_#pH+iN(w$>H)#f/N$b&IXkt+Mq2]D^I)3h/AcHadIKqX&_n>5TDNdRJDphRHPG(<n,tb=Q/O;*?^Sr9c_9*G(i]?e]]?Nk(]K:qO8&:aTQW
 ])EitSqmWRmQOXcVcn<E^iq39qS.cq:xF1QXoa$LKP-8hn*Qoe;PsaaVi;'&RW/n16`f.H`j*Sra8tG6thI0[a3qt),:Zj,hq<8Q?-@X`7.+r?QYX,Y&^
 `+2A&q.nVFH9?DFJ'n@g^0f[FgeI^'-]QO%)IV&`LOcw&Z@+EA6j)M[RI'g2h0*%TY`UFv0XM-NEmb>I.IT.>7fO7$wQ4x+QksVNNXk;eOa*=.LuF@7Ho
 DvkE')jh9Sfo.rGw]o2PnisiZa)Rqn4_$Rr3Q:Vm]IT_ZqbcNU`)/'ZY+b'`k5OXR9)A]_`g>,XmK$cA(Fb6L3r_JRNVj^SkhZB])-rq6:0$]tZ7ZWuUu
 eS*j=x^U%nntAgMNld.,GK^oqaPDA6Un1+[b>C/M#tgFTWJ/8?slH.e7#H33<.`cg+oM_fPl$[P8W`N0CtV`?Dw2vvQmi_'HCR9B%*1:P<IUExH]n1>^N
 0$H4xhpiG><)AQ>bhE4?mr@YrDEf;ao-7tFd;u6fVnHm:D?PXK)[9QjsDi2gaB0,@6dLHS+j[nq4n4/(XJvd;]s)c#hn=CG>_b4Qn6)qeXhY52O_UVF[k
 Ib,bo7d#R:J]rW)9wR[nh8:2e[$?rJSEC$,NBGL>$S+r0^*;q$NFhF1=SEH3c%UCmDD)4*0Xw/aA>^,eo]-IPZ,0-9GGQMFx<a>_IOL$,0t>C5v7cZOsv
 A$v+Sm7aqsw_b9*v&pbkW/:>O7PR)ibS]+1D1`'26Nq*_n,D4(dl(ucCVt4Pf>j$0aNH;LDk^Exjd8#[it[B2*giNNt&bDK/b/uG`mB79BY-1$)'E'48p
 C&Pt^TCBUP,oPn:$lEp&)4_@F&.^SU%/fr7G.u@89)pbkNN7QFR(x#J-SWm=O7GjB<b;x4^F:kFch3jSfOsCKZ4^IVuVMpV#hL^i'f]xm@<NcaFkAaI'-
 e;<Ga2&1Us;3nfs8v1e:KNpG$Are[:k=40Ye6&7^'?W=Jdl9op/#8-%d.5%gXb<qhY9NR1AN=$n(L]A0erJfLv.JAh?K@g;`YIDZXkVp%-GhwDHja(r@s
 g7dI?4%*K2.'=cosV`$;JA;#h>Nrq7swN;WObp@g3)Y_RG=-x&K1<K6G0t)Bq0qBSIS2o%Sr'%+c;;Dc-+k2]Y4tB2/_H[%mUirn>w6c6R*#D*Q4I9s[w
 X`8paWlNDccw8(kqj^7?m8**-[<ip#6c5sUaX_2NF5K(VAYr+?[SIC2EZDIB1w7LA1Nd$Scl2X$j;x_ZttViIImSK4@lA;1[q8FVod77W4<WU_hZCJ=o'
 eEUU%t/>lV3UrO+ZI;>DUNA%6<WlCPfl&f4N2U$LU^nhNq/pW4_l0`dG;[ZI:7-P-_9<goJZh`'D.RYPdQ&56.kdRvHFgUE;H@8Z4r(AAG$F9fki)^QB'
 nSPka+'lC;t&Mj6RQMB.6KHVV=,AV61n1lKgfED@6FBbBFjUpRHtc2l+hv20c)2o>7)<@UfB_w?n?D^a(Q,dn6^HS+$//(:U*vO)u?]NN)&6vagDD[A_<
 $s(DgO:i:0W7S=xM,6N&DnsULID#U`H7Oo^8I<It9&>^b[S8kqrOo'H0EBIVSHOB(-HA1HFMl,CQVi<t=pcDPR#ufaJ*M+UGc]1c?%'d9Je-o<)E=6Pk<
 c>RfqARR:xdSfsn1ROIl&RK9RjKSWsYv@<L701CMNJ?Zl+],d<BIX38UXN`=l4wRABW2e?)(QPOrnC<#9>gTwo7w6x3S$)YGZ/.t[1/:c>`1p?JHTpD<l
 rr&<Y@#K2(I$o1#Zwls0/`bZ57B#j$V&sbLNfWrlgx]ptPS%KF<0j:Qnv>@DYk>/Nf:v:CcOhS_UxvhepobOeS0[ALhJq1-[Yl=xSBA/WElJ*SZ9v$=@/
 :YXMa+pjYZ^t;+BtV=BL5krX@7^,_e(U*K=<bR_*NsrCXhYWk[k?1Uj)Uc=t/ir>b)Vp&9jjE,L^^/<-?X4Q,n@LASs3vl%q7HO1*uH_V*C-<TQa<s'vd
 #@o.ie2o:@0KB59^XfCJbr@9h)jw^Cc;@>gH0(CoG1`c6<ugCc0+xB3qWD;D:X-%OkvkqA+j2NaN,`up-uRTjw[uFBqoqcpp[@l7)f`&QCXOF==?-,u><
 =r5^[@HIf_07)o6L']kJ[(N'L[j3HrYlmJJUCHZl1JPZPidU(w1(1agv*ie2)gfnx#lv.MmcipG94f#O1tD/DCrdcspL2lB'T&tq,Y.5,FS**?$$-*-Gj
 :TElqHjF'x>.vxR^w[UbMS>^674pi12tnO%$+fpI098.ZNbDdA%p%nut/Y%-X*9jUfL=E$<[1AnW701'v%1N#sE?t*`&-j.nPk(GtZR+BAk4O._9Y-_T`
 XW9,48KxHJ9s7PEvB*29/d:;,]srURsKLm)@0j'GjP5NLGl2*?r,o^Ald=U.O'sm&YeAa)[8q`)_.NVsmWV5E2)A?DTux$/l,k,F0of+.=.0R`)p;=5a=
 N8/-6IJOxhbM0FP(Zh6p#>vg>%PHQKBK=u]E]DhNlD7C+/8xInOlT5]52JAxb_QoO>823&L>Q#J)LDFwgmran9HepV`IBq8ISpt.V/>0og4aj2=g],;NI
 wmQ/0HDq+YtxYB,BPGtdsV[tWP+S]*hjJCOaY+5%H&&HmVm8m8#%JfBB9b>o`1&#<xKtK%X-sbCknVDqZ[`+du$kaT7hJKVY?>G'rVjm/rkg^HqRIWRdR
 UqD#a*v<1IOG@,v@cVYMWpf3V$v<Btro%V8E$@X:rf869Yn6$+oUX(KAfhAO(%Gh@opVY?<pI:`Y$RmGtEe(#dT=4#8wGm2*::lQH,s&]/SF0TPQehbH:
 g'&g*AJPRLGh;>LPSPnATsP#w&)j0VcPXM`6FrquE8&l?C_1_<U%_;brka<-]Yjh_dt>)T2d6+AZBoTE^Oo<_0vgU)HL2/o<1Hj3:,d)-Zsog20x0^?b2
 &&Kc>doBk7t5m<k4Wc>u9mBa<b;:9V8,`*=4-a&rHbcSqF;L;7GGo<n?nte158h#N-v8crTw=RW/'N/r$[%-)nutLof2d9Ai'(=s%M[Dd3w#;YmFAif*-
 =/q,7YJh&T=<p5=:6bCNIGh][*0wa>[i1QZE8#<?Pds]d;Vea`sP7h:'<nqZaPV4OmM,2TXgHji;&B.B4:gcwE3,'eq?^I3xgBO=C`l6[fI%3i8^6s_P8
 7l^&ZrmsS<jO5s66u:[hse/mM`wn>_Qmt#AcxE4=O+7[j;;1oo6J)RM*RcI);m4QiTp]`HekW8ZR+>llQ[d;s^xi2T0jV+Yv<1kJO^[-utWows<?/ktS*
 QbQ94aks&6*iH7Q?fu<RP#/0=Z*r+<c&I.*7lApe/t=[/P#%/K0UrWrulOjD=UrC<O[v3BWY*JGeSM3_$me$r,x,.R5O+H=)88)PWm?^GMXRH^rC?v:&/
 A/6bo]v6[MVYMYq-@USB0/ieSOmBr^ZD2Qc1$tk6CG'Ya)CfS7mvOS5&/k_J9Ax6I=_*'aV]U,hM(p2-dwMm*_b1v']L9Ch'8]GD$/l'WDVjeM&+sG*Iw
 ix0HI#$X/s]@$b2)a_fFvjpe(mhBm[itg=6%k6+i/QBsltaq5PlvTXTfC?T;Xj'H#F)Y<(?nM6k]3StkOUmk?sXMZ<B,kf%8Frc(J#CDk$/+jqOu[M1B:
 N9ZK*guEJ[^59K39uX>[FdH,3$6An6cS&j7/KF*v*&6nH2+kZD&lWW%lAEt@tsG06gjaSg8KT3^-29's^S$V7Eue(p+/-4:sau*'^5>LGHPE.l5O*da$+
 xG(F+xmujr%_O@d1o<[nj3IMs$@xDd$Rqva]Ll'uuUOMn5gh/uvn^jIr3S$a;vGYmoKCxj&@`hGRO:(`aH*1In9/k6qU-^SFX3L4VeM+(Ea3.##ap+<%?
 35a2gcVGH'>k]I?;-[(1sg#%+^?ji@wD[9SSgG(cUL;'9,K`kCdXBAD;UC/e?)A&m.3GN-u#GfK,_+<Q?c#7,K(o(Lm6bkGK'U&#.?7e`;)#7&7fO[^[Y
 Bvjph2Rl3?k]jZpfai8xJ)%e3SVoOaI@E'n1ua%9Zn62@A8bpQG[<a^lP;C>D`Q?D:`A8e(4)X-T.P6@i2:.>.YB5.j/J1hX->DV<B(@is<1nU/'+Ru5h
 =]j.Wm'R]]Pr/BPbKM%,5Z^P4p8Se0*%=ZFbc11>G`urfJi;-3R3A?kJ>1<5u]ko[gr<Nh4[`#QW6N-OnO,[YO9-4mgon$7[Hnp=Ed7A0fT$3?+C[g'%U
 tjoRUvWxls?29m`vG2@c=Wv]Ga#H3]Wnw9F1:OF+@'gbWR[pY.v)T(cpkwnWmqjaZbSEJ;RASxA4(LpQjjVMOo/XuRGB&0QC#IRqvbwu;MFBxu5#Or&,5
 2m_kLt/OfXo<O6>:A;_Yn0`wags^)j0-3u;hH(BoO@b_*ucf38G@r_QI,;.3'7q=I5pQ'J$0<[?m+k4YVCwOdh(/$cDsmnc.H>9=.[_o]W(+VBtCj&-D2
 Ho_uMEwD?1v*K5b2.(#-7I^?BfC8r&%wshbINI`+M0DQpQtf]<gkr$L*X9;Rk*<EY%wh(lhe'dD;`+#j2:H3-%k5]Q#6i*Hb9XeYT,Ic/et-gvd5I(`-a
 T3f=O;.dYQM5pNc,.(]1h8bP]^:4G6*b?%R)SZp4WWUMpC<8RIV/?uL0XJM6J8->(l^1wK8+=oVP.fHWK<a,opn]2_+u&bw]MLb,kd'$`DZ.E>fL7'*%,
 Zd_i8vqohqrT`h1`QMfSCDeQJD.Upwd*R$Mnkr);,]#M/`P0IDwCf@5en8.^c[76Gc`.+(ZUMgcrNA38(UhA.5a=NBY[hN,thcsS^$=9JUVl$n@9JK-aK
 h0''#J31gGxkG]+,n[P3V/>22#:o#f<=s&V).cZnM3',H5=H[Qh<k6TsQL:d1?n=ePFnG)51'H<&]gTus-noN;ED>arar)=,5d)D-e-Zh?ZeWfnjx;j7u
 lUr($M2K0Zuxn+B5IQ4*d4#Q,;P`?ZH_H7L-pAkY*piIsK6T=ZvqYV42doHp/%?KGp]KLKG)(]2;F.'hTc,T[;/KPWc&CZ@MJdvV<mgv1+hZtuJPNs[ba
 `>l[HPw;)t5D(7=BB]$KR'8Q;3fH[7(=siB'kM`.asJWF,3BO+XgBs6:2UP8I]Br1,Wf/GOPj7IW9d2iMUpshS]&E>;'rg5LV/`%oGoMk+X*#9#7^Z.T(
 YlQMifWg5Xc61vn*Gd<2ME.RCJl/$d3fcCcLgKJciYT=n/96/,HZl9sUZo7[5d#VOec7(R3?OE[OE)Y_Ir9q#nH`n7YjrPL9.Fop+VcS5@<&tjCx.6Frl
 (r]Fq;<;N'CU'H-[(E72r-Vq(JNU%_sKj#/f`:'FahiL9DOMg=LX1Jd5LH<aAajCW=odc[6C7?DV*?DAcE%r]U2MW-fqLSn?mhSNMP+f6Jci@.I3oSPTN
 $5kSiT:2n.Zd]uL>5lF7h<bOgO<r1ba+rwFeb1I>db7VFJqQpx&swI+Ho[fV?=m_=KAmjM[NP*F@c(Vs3qSalJ7DD$s:'qGV:n7(7n<Z?%npX%;Bc_PB`
 rN$5O=jn'33*jG%`xj=u)e-O)I.xrc(e9Iia?HIGBQ*WnRBBdX5#1;*>aQm<Y)#/XX#qA;w5@@KM]^]eJ07Lv2Lik2x57lD#Y2W[RB1RFX:Q/O]+/I*Lg
 f>`i-?t;Qb,vq@T&lCbN;37SEEC1=-+ccTBFkQZ&EA6-'`gU,WPma#<wvD0`vIfn*D<mVSd6S]Hbb,YXAreY;g#k1@V$SA;/h_$)xb[D'*5o$Z&jUqu7E
 JFsi`Z6POX0,Anq_$?-,VcLm2Id7*OuW$x[G^nfG]_(@AfT/ddV+ljW';m%wW.[$9bMFsvH?91mL?7vM#&%-okO6KkY1Xs0)2TJSorPgdEoAcY^;$&asc
 -g`l_1NJ[Z]<DV#q`gPGoaw*%;(`(]C#*55Gj#59a(C9>pe+=8&<vW<T%4D^nE5;C7L8gl.*nUaLkpJ@BjDUjGV/Zv)[fFVQg^QwU;M/);q'h?GoQ^82C
 3.h[ov1Q,BB[^%^bAbbADL&J4`7FrJXL/jIAL_c6HW/CFDH]@[GL8W%pn0u_YMZLLtn'O=S/wKn9mxHY8o-ms]6pa,r,ki7r@FF&&&]a%f$BEJt.adrGP
 G'Pu%V<S?<Mbmh*c^Vue&P-[e/iGR_lGCvUq(WCP%WcB%Qma-eHQx3ef3LPGsdi](mtkRguXO8J@hSB#J^K6o)bB9O+spu?LDrG;GvRx<Jg0=D_P]W0XE
 i/#]Mn8fD/Se#7rHT5L;lSm$,5HXB1jK?@$7_SoM5JdN6gf$u-ukS?6E:(X,5'.C'gTVQXi83MWAYVR(hs:XS2%jpIG*VejtacEmuFmAdW0[)R+PW0IRA
 [IVn%b87q1,$(jO8Z6Gh[39xSK__4t8Meb8DKQ>*Q%;xxTe$OP=Y4i(9QSg7S)H11Zwv0?_l',-GV4Egm3u59@nMY&];jAGn=IWlUZwTP'#)=s`?e6bm:
 DwGg>B/FMw`rC>L:NubCxuhcf`dX/[lS$9vYprPk&ERTH<?%PA'8^b8iA?OkHJlXK*3AUfunCCjHjnAT>s)gkGA(d$c>lY)VTJLXc<]@n2cY+i)KW+kqh
 -p[Z>+<<7vYU[Q,>HoShVJKTGbUM]V)kC3mJitS1s*'jK*'LM7Wj@#,f?co7W'e=<VUW2qWk#9C`AB&'^PH=whTMipbg:PATAbQ285Ot&np*cxU(LK/__
 )vP>;PTLK_2g*m<2p%R6IS.p;e@JuNOif/2<<ibjp`ej?mR2&U@[xAfL=3ed9GHh<#L)ap-Z$7u<2k8uPEx:*`L;6d(UB&k.TAJShm#g%U#<LD$6HA55x
 NG#MW_Yn0r*v`l)-fS^LbS]fg^N^sW=b9WZK23jH$SNh)_gn70msax#_*ot>Kl2LO3TQm:=t8@h(S6]+Wi)TQmuO3/+mJUg)j?EOs8^7-_/R4``[2Apjn
 N9vb3XZT`IO'NCe8N[S3`ZCvr7tumqg_:1Z-B9GxXp?LTSs`R5mI^%r8fH=',B=`(]aE%F,M*Qd?fdiU4:vR.87T89pUvZaa>$].2[wIp991jNVl.G%Wg
 ?s@'1p_RGOc6m&ak5$S@?[O'mI*3l6apT3UdFrK&b-I&_gK.?@T(d1VPKlS$;OaR'7H,%2H5A)*lJp>.D*cT9s$.L?PP5BnWKu);dr#;tJGY?X#t,S^<s
 i2j9vBkIPaD=dfN;ekHTl/cL*gc.blB1r9H/f,^TVu/GGZsH@bt4ds7LENlPEFP-DBV7toiC(8st(`2tvFo3'?KhZ'BK(8S73;mN+q(2KJnWGrh45Ni0)
 m24C@tH+v72NK)9.%+ai<eTdOiD2ai=]k9Mte@5f455&u'r1S=?8iPt3f$T[G1+EhA5cK6lhbLAaGwu6H=Jn?5N*4(K'dL-2bwS[]i']HrM^tKS`oZ5Bc
 h-^.t9wa?2c64SRBqs51.3?KI^vV;tWi$<3Peg.diY/7]Hj3?X7m@=56H*#fYB>S9EUlHV8rtJ9Y+em=eYUmgJvL9/v0B:'9Y0^XM:E-Htig@NW1lx$)i
 Yi1wjEG6=$ZVBQ+U6/o`XW4;C%:Q(b?ukBX.30>31V(L2^J*Ns[:.9rFfhG8J;Y'>f`^8(%'OZCp-)>>?j:c`lmuIx8=P;TQXE.`.<Dll/TU@LZ_CR`U5
 Dx@&SW_2Tc-WVX,*hBq%u+.<D@'XlAX4IOGJCc]8a&JL)tc&Ww[[DQq5Zi*%uPuMbWM4Box0-fvBuNEivVs>+:'G<K8FY5]/Bf9]HG>8^'32iSW4et_r,
 B#MAhNWsCGtLWp^nJDL2[G?e?lcc-A6(xd9cMV;-i9U1PDW)rEm(<uhm3uZ=7H^6.+%0qH2nNKVvYx3O>&2j/+m_t/g<PN,*N%SPk$ZNId2uRpp@U/,*P
 ?*=+3TC&rTr`ob_n_xhiJK?=uasn]0o`AdA6v43)sXJA,[pEF2A4j'_LiQbeqq?E5(7K8/Cg&wI%T3[8.9&dcID?:EQak*UZZ%Ms=4K>UgkJ]u5deAKSH
 p*#rau_7PI=Oa+ZC:JM0Q.nL.0$-B$n&>mc6QEv)fD=i?Lat'<Ao4RmB+4MR2lT4asPBl,BsY^]H6ar#%2R-uQ*qfKLOUw:Pgr>J`hJakvosBb$Ul7tJt
 KqoMJe5V%Mj%'sFYQ5fJY7#f:atdteq3Ao]v:TTjbU-+hYY*'C(]lF.[H&le=cDNd#Mmb]/+>u>/<_WvAr;O`.C85[BSD^8pG>p-RXkJM6S@MeZM0?5;3
 P1jWB_(m@>/'m9$930oooKn,cf*k%'tZ>,lj5bZ0;fC8/bEq`+i@THfMoGA-Ad$_bWJXge[b3X].l<m_`UHIE*4>7Jw+)NQM/>hsmuLlo_d,U-7t#B0]i
 GYWAjkDmMG*WIj)J4SMt'.6lNK_abNh2bV@N>jniYp0k*/E5BFnF,[UI%TC$%ikf$N`1'6$_hC:&5QT:7T31Om.1mhI&@p`K19Q,+FcrP/`sc+AKg<Rpf
 Ic[8&#uIg7hFc)cnt[M(AH@%('`)hhPr-q482wf$K,d-.]#?j&`s5<G/8oBUb:#jmn?o@ruIdccJBHUTxCX'fvlQeluqeLHY9a&B.g)YT`/0Vr$N4RHdV
 tm+h4_&B$^Khg)95R;E1:o$V#*u_+UGpURQ#]s1LvLrk#&j<FP0sc84q/NQbC0Tk9JePij?TM_?oi@.Q=u)CP]N/p)[cVx^GeV'4X<_l$ubhTxKLM2R3O
 9I/%N3QER5nQxwD$-bZ32L8?JqSAHKXMDG1A9Vd-Sk^p<@m$mqACQeXt)3R#,d(uUAx/6cMNgE(LV47?MRH=]i8,YIo]/rJ-iF]Av6m.+9s]1&_Zce9'X
 m[<@D(qL.X62bEBm*ga'o-#M)j'86D/-mki8#=`F`6*`vm%n-N;c=8S_b@78,ri1HS_HD[Rnb8/@2%r%/6gW9hms/;ofUEKov]$CIGwI>Dc>Q3<,xlNH8
 *6,qlme*Q[X?R]^-V^U3Q8R-[AKb#`ofg`vQkYP<m/;W(>I4tX;gcjxqhP`RN>W@HQ_Vu+hA`%x_0X-1XPJD'KKZsfuv4%N8#Opb^tdGL]c$)7#)Cu5G1
 T0ti&Sk&+A2HJ%DvxE9[OAjP/^uu1p`lCbE[q<0`><SFsRU].`[[I4M??md:H@THO@?Z,2(XL7QoF&9l/3rjHG,W:,AX`,_k(6A/9YqAAIGT,gHvAx$:F
 Ls<c9#[sv6H'@ol0?Q8B%2jZ?fO<LL(1K$<l;TjxkchSOw(^7X&P###;*"

end ThreatScan.Text
